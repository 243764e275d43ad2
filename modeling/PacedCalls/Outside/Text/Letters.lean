import PacedCalls.Text.Mark
import PacedCalls.Text.Printing

set_option autoImplicit false

namespace PacedCalls.Text

def signTable : CodeTable := CodeTable.ofText "
  20-2f 3a-40 5b-60 7b-7e a1-a9 ab-ac ae-b1 b4 b6-b8 bb bf d7 f7 2c2-2c5 2d2-2df 2e5-2eb 2ed
  2ef-344 346-362 375 37e 384-385 387 3f6 482-489 55a-55f 589-58a 58d-58f 591-5af 5be 5c0 5c3 5c6
  5f3-5f4 606-60f 61b 61d-61f 658 66a-66d 6d4 6de-6e0 6e9-6ec 6fd-6fe 700-70d 740-74a 7eb-7f3
  7f6-7f9 7fd-7ff 818-819 82d 830-83e 859-85b 85e 888 898-89f 8ca-8d3 8e0-8e1 8ea-8ef 93c 94d
  951-954 964-965 970 9bc 9cd 9f2-9f3 9fa-9fb 9fd-9fe a3c a4d a76 abc acd af0-af1 afd-aff b3c b4d
  b55 b70 bcd bf3-bfa c3c c4d c77 c7f c84 cbc ccd d3b-d3c d4d d4f d79 dca df4 e3f e47-e4c e4e-e4f
  e5a-e5b eba ec8-ecc ece f01-f1f f34-f3f f84-f87 fbe-fcc fce-fda 1037 1039-103a 104a-104f
  109e-109f 10fb 135d-1368 1390-1399 1400 166d-166e 169b-169c 16eb-16ed 1714-1715 1734-1736
  17b4-17b5 17c9-17d6 17d8-17db 17dd 1800-180d 180f 1939-193b 1940 1944-1945 19de-19ff 1a1e-1a1f
  1a60 1a75-1a7c 1a7f 1aa0-1aa6 1aa8-1aad 1ab0-1abe 1ac1-1acb 1acf-1add 1ae0-1aeb 1b34 1b44
  1b4e-1b4f 1b5a-1b7f 1baa-1bab 1be6 1bf2-1bf3 1bfc-1bff 1c37 1c3b-1c3f 1c7e-1c7f 1cc0-1cc7
  1cd0-1ce8 1ced 1cf4 1cf7-1cf9 1dc0-1dd2 1df5-1dff 1fbd 1fbf-1fc1 1fcd-1fcf 1fdd-1fdf 1fed-1fef
  1ffd-1ffe 2010-2027 2030-205e 207a-207e 208a-208e 20a0-20c1 20d0-20f0 2100-2101 2103-2106
  2108-2109 2114 2116-2118 211e-2123 2125 2127 2129 212e 213a-213b 2140-2144 214a-214d 214f
  218a-218b 2190-2429 2440-244a 249c-24b5 2500-2775 2794-2b73 2b76-2bff 2ce5-2cea 2cef-2cf1
  2cf9-2cfc 2cfe-2cff 2d70 2d7f 2e00-2e2e 2e30-2e5d 2e80-2e99 2e9b-2ef3 2f00-2fd5 2ff0-2fff
  3001-3004 3008-3020 302a-3030 3036-3037 303d-303f 3099-309c 30a0 30fb 3190-3191 3196-319f
  31c0-31e5 31ef 3200-321e 322a-3247 3250 3260-327f 328a-32b0 32c0-33ff 4dc0-4dff a490-a4c6
  a4fe-a4ff a60d-a60f a66f-a673 a67c-a67e a6f0-a6f7 a700-a716 a720-a721 a789-a78a a806 a828-a82c
  a836-a839 a874-a877 a8c4 a8ce-a8cf a8e0-a8f1 a8f8-a8fa a8fc a92b-a92f a953 a95f a9b3 a9c0-a9cd
  a9de-a9df aa5c-aa5f aa77-aa79 aabf aac1 aade-aadf aaf0-aaf1 aaf6 ab5b ab6a-ab6b abeb-abed fb29
  fbb2-fbd2 fd3e-fd4f fd90-fd91 fdc8-fdcf fdfc-fe19 fe20-fe52 fe54-fe66 fe68-fe6b ff01-ff0f
  ff1a-ff20 ff3b-ff40 ff5b-ff65 ffe0-ffe6 ffe8-ffee fffc-fffd 10100-10102 10137-1013f 10179-10189
  1018c-1018e 10190-1019c 101a0 101d0-101fd 102e0 1039f 103d0 1056f 10857 10877-10878 1091f 1093f
  10a38-10a3a 10a3f 10a50-10a58 10a7f 10ac8 10ae5-10ae6 10af0-10af6 10b39-10b3f 10b99-10b9c
  10d6a-10d6e 10d8e-10d8f 10ead 10ed0-10ed8 10efd-10eff 10f46-10f50 10f55-10f59 10f82-10f89
  11046-1104d 11070 1107f 110b9-110bc 110be-110c1 11133-11134 11140-11143 11173-11175 111c0
  111c5-111cd 111db 111dd-111df 11235-11236 11238-1123d 112a9 112e9-112ea 1133b-1133c 1134d
  11366-1136c 11370-11374 113ce-113d0 113d2 113d4-113d5 113d7-113d8 113e1-113e2 11442 11446
  1144b-1144f 1145a-1145b 1145d-1145e 114c2-114c3 114c6 115bf-115d7 1163f 11641-11643 11660-1166c
  116b6-116b7 116b9 1172b 1173c-1173f 11839-1183b 1193d-1193e 11943-11946 119e0 119e2 11a33-11a34
  11a3f-11a47 11a98-11a9c 11a9e-11aa2 11b00-11b09 11be1 11c3f 11c41-11c45 11c70-11c71 11d42
  11d44-11d45 11d97 11ef7-11ef8 11f41-11f4f 11f5a 11fd5-11ff1 11fff 12470-12474 12ff1-12ff2 13440
  13447-13455 1612f 16a6e-16a6f 16af0-16af5 16b30-16b3f 16b44-16b45 16d6d-16d6f 16e97-16e9a 16fe2
  16fe4 1bc9c-1bc9d 1bc9f 1cc00-1ccef 1ccfa-1ccfc 1cd00-1ceb3 1ceba-1ced0 1cee0-1cef0 1cf00-1cf2d
  1cf30-1cf46 1cf50-1cfc3 1d000-1d0f5 1d100-1d126 1d129-1d172 1d17b-1d1ea 1d200-1d245 1d300-1d356
  1d6c1 1d6db 1d6fb 1d715 1d735 1d74f 1d76f 1d789 1d7a9 1d7c3 1d800-1da8b 1da9b-1da9f 1daa1-1daaf
  1e130-1e136 1e14f 1e2ae 1e2ec-1e2ef 1e2ff 1e4ec-1e4ef 1e5ee-1e5ef 1e5ff 1e8d0-1e8d6 1e944-1e946
  1e948-1e94a 1e95e-1e95f 1ecac 1ecb0 1ed2e 1eef0-1eef1 1f000-1f02b 1f030-1f093 1f0a0-1f0ae
  1f0b1-1f0bf 1f0c1-1f0cf 1f0d1-1f0f5 1f10d-1f12f 1f14a-1f14f 1f16a-1f16f 1f18a-1f1ad 1f1e6-1f202
  1f210-1f23b 1f240-1f248 1f250-1f251 1f260-1f265 1f300-1f6d8 1f6dc-1f6ec 1f6f0-1f6fc 1f700-1f7d9
  1f7e0-1f7eb 1f7f0 1f800-1f80b 1f810-1f847 1f850-1f859 1f860-1f887 1f890-1f8ad 1f8b0-1f8bb
  1f8c0-1f8c1 1f8d0-1f8d8 1f900-1fa57 1fa60-1fa6d 1fa70-1fa7c 1fa80-1fa8a 1fa8e-1fac6 1fac8
  1facd-1fadc 1fadf-1faea 1faef-1faf8 1fb00-1fb92 1fb94-1fbef 1fbfa e0100-e01ef"

def isAlphanumeric (c : Char) : Bool :=
  if c.toNat < 0x80 then c.isAlphanum else !hiddenTable.has c && !signTable.has c

def numeralTable : CodeTable := CodeTable.ofText "
  b2-b3 b9 bc-be 660-669 6f0-6f9 7c0-7c9 966-96f 9e6-9ef 9f4-9f9 a66-a6f ae6-aef b66-b6f b72-b77
  be6-bf2 c66-c6f c78-c7e ce6-cef d58-d5e d66-d78 de6-def e50-e59 ed0-ed9 f20-f33 1040-1049
  1090-1099 1369-137c 17e0-17e9 17f0-17f9 1810-1819 1946-194f 19d0-19da 1a80-1a89 1a90-1a99
  1b50-1b59 1bb0-1bb9 1c40-1c49 1c50-1c59 2070 2074-2079 2080-2089 2150-215f 2189 2460-249b
  24ea-24ff 2776-2793 2cfd 3192-3195 3220-3229 3248-324f 3251-325f 3280-3289 32b1-32bf a620-a629
  a830-a835 a8d0-a8d9 a900-a909 a9d0-a9d9 a9f0-a9f9 aa50-aa59 abf0-abf9 ff10-ff19 10107-10133
  10175-10178 1018a-1018b 102e1-102fb 10320-10323 104a0-104a9 10858-1085f 10879-1087f 108a7-108af
  108fb-108ff 10916-1091b 109bc-109bd 109c0-109cf 109d2-109ff 10a40-10a48 10a7d-10a7e 10a9d-10a9f
  10aeb-10aef 10b58-10b5f 10b78-10b7f 10ba9-10baf 10cfa-10cff 10d30-10d39 10d40-10d49 10e60-10e7e
  10f1d-10f26 10f51-10f54 10fc5-10fcb 11052-1106f 110f0-110f9 11136-1113f 111d0-111d9 111e1-111f4
  112f0-112f9 11450-11459 114d0-114d9 11650-11659 116c0-116c9 116d0-116e3 11730-1173b 118e0-118f2
  11950-11959 11bf0-11bf9 11c50-11c6c 11d50-11d59 11da0-11da9 11de0-11de9 11f50-11f59 11fc0-11fd4
  16130-16139 16a60-16a69 16ac0-16ac9 16b50-16b59 16b5b-16b61 16d70-16d79 16e80-16e96 1ccf0-1ccf9
  1d2c0-1d2d3 1d2e0-1d2f3 1d360-1d378 1d7ce-1d7ff 1e140-1e149 1e2f0-1e2f9 1e4f0-1e4f9 1e5f1-1e5fa
  1e8c7-1e8cf 1e950-1e959 1ec71-1ecab 1ecad-1ecaf 1ecb1-1ecb4 1ed01-1ed2d 1ed2f-1ed3d 1f100-1f10c
  1fbf0-1fbf9"

def isAlphabetic (c : Char) : Bool :=
  if c.toNat < 0x80 then c.isAlpha else isAlphanumeric c && !numeralTable.has c

def spacingTable : CodeTable := CodeTable.ofText "
  903 93b 93e-940 949-94c 94e-94f 982-983 9be-9c0 9c7-9c8 9cb-9cc 9d7 a03 a3e-a40 a83 abe-ac0 ac9
  acb-acc b02-b03 b3e b40 b47-b48 b4b-b4c b57 bbe-bbf bc1-bc2 bc6-bc8 bca-bcc bd7 c01-c03 c41-c44
  c82-c83 cbe cc0-cc4 cc7-cc8 cca-ccb cd5-cd6 cf3 d02-d03 d3e-d40 d46-d48 d4a-d4c d57 d82-d83
  dcf-dd1 dd8-ddf df2-df3 f3e-f3f f7f 102b-102c 1031 1038 103b-103c 1056-1057 1062-1064 1067-106d
  1083-1084 1087-108c 108f 109a-109c 1715 1734 17b6 17be-17c5 17c7-17c8 1923-1926 1929-192b
  1930-1931 1933-1938 1a19-1a1a 1a55 1a57 1a61 1a63-1a64 1a6d-1a72 1b04 1b35 1b3b 1b3d-1b41
  1b43-1b44 1b82 1ba1 1ba6-1ba7 1baa 1be7 1bea-1bec 1bee 1bf2-1bf3 1c24-1c2b 1c34-1c35 1ce1 1cf7
  302e-302f a823-a824 a827 a880-a881 a8b4-a8c3 a952-a953 a983 a9b4-a9b5 a9ba-a9bb a9be-a9c0
  aa2f-aa30 aa33-aa34 aa4d aa7b aa7d aaeb aaee-aaef aaf5 abe3-abe4 abe6-abe7 abe9-abea abec 11000
  11002 11082 110b0-110b2 110b7-110b8 1112c 11145-11146 11182 111b3-111b5 111bf-111c0 111ce
  1122c-1122e 11232-11233 11235 112e0-112e2 11302-11303 1133e-1133f 11341-11344 11347-11348
  1134b-1134d 11357 11362-11363 113b8-113ba 113c2 113c5 113c7-113ca 113cc-113cd 113cf 11435-11437
  11440-11441 11445 114b0-114b2 114b9 114bb-114be 114c1 115af-115b1 115b8-115bb 115be 11630-11632
  1163b-1163c 1163e 116ac 116ae-116af 116b6 1171e 11720-11721 11726 1182c-1182e 11838 11930-11935
  11937-11938 1193d 11940 11942 119d1-119d3 119dc-119df 119e4 11a39 11a57-11a58 11a97 11b61 11b65
  11b67 11c2f 11c3e 11ca9 11cb1 11cb4 11d8a-11d8e 11d93-11d94 11d96 11ef5-11ef6 11f03 11f34-11f35
  11f3e-11f3f 11f41 1612a-1612c 16f51-16f87 16ff0-16ff1 1d165-1d166 1d16d-1d172"

def isMark (c : Char) : Bool :=
  firstMark ≤ c && (nonspacingTable.has c || spacingTable.has c)

end PacedCalls.Text
