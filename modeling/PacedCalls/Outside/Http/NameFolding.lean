import PacedCalls.Text.Printing

set_option autoImplicit false

namespace PacedCalls.Http.NameFolding

open Text (CodeRange CodeTable)

/-- Characters that are folded. After `:` stands what each one of a range becomes, after `=` what
the first one becomes, the others keeping their distance. After `/` it is the same, but only every
second one is folded. -/
def table : CodeTable := CodeTable.ofText "
  41-5a=61 a0:20 a8:20,308 aa:61 ad: af:20,304 b2-b3=32 b4:20,301 b5:3bc b8:20,327 b9:31 ba:6f
  bc:31,2044,34 bd:31,2044,32 be:33,2044,34 c0-d6=e0 d8-de=f8 100-12e/101 130:69,307 132-133:69,6a
  134-136/135 139-13d/13a 13f-140:6c,b7 141-147/142 149:2bc,6e 14a-176/14b 178:ff 179-17d/17a
  17f:73 181:253 182-184/183 186:254 187:188 189-18a=256 18b:18c 18e:1dd 18f:259 190:25b 191:192
  193:260 194:263 196:269 197:268 198:199 19c:26f 19d:272 19f:275 1a0-1a4/1a1 1a6:280 1a7:1a8
  1a9:283 1ac:1ad 1ae:288 1af:1b0 1b1-1b2=28a 1b3-1b5/1b4 1b7:292 1b8:1b9 1bc:1bd 1c4-1c6:64,17e
  1c7-1c9:6c,6a 1ca-1cc:6e,6a 1cd-1db/1ce 1de-1ee/1df 1f1-1f3:64,7a 1f4:1f5 1f6:195 1f7:1bf
  1f8-21e/1f9 220:19e 222-232/223 23a:2c65 23b:23c 23d:19a 23e:2c66 241:242 243:180 244:289 245:28c
  246-24e/247 2b0:68 2b1:266 2b2:6a 2b3:72 2b4:279 2b5:27b 2b6:281 2b7:77 2b8:79 2d8:20,306
  2d9:20,307 2da:20,30a 2db:20,328 2dc:20,303 2dd:20,30b 2e0:263 2e1:6c 2e2:73 2e3:78 2e4:295
  340-341=300 343:313 344:308,301 345:3b9 34f: 370-372/371 374:2b9 376:377 37a:20,3b9 37e:3b
  37f:3f3 384:20,301 385:20,308,301 386:3ac 387:b7 388-38a=3ad 38c:3cc 38e-38f=3cd 391-3a1=3b1
  3a3-3ab=3c3 3cf:3d7 3d0:3b2 3d1:3b8 3d2:3c5 3d3:3cd 3d4:3cb 3d5:3c6 3d6:3c0 3d8-3ee/3d9 3f0:3ba
  3f1:3c1 3f2:3c3 3f4:3b8 3f5:3b5 3f7:3f8 3f9:3c3 3fa:3fb 3fd-3ff=37b 400-40f=450 410-42f=430
  460-480/461 48a-4be/48b 4c0:4cf 4c1-4cd/4c2 4d0-52e/4d1 531-556=561 587:565,582 675:627,674
  676:648,674 677:6c7,674 678:64a,674 958:915,93c 959:916,93c 95a:917,93c 95b:91c,93c 95c:921,93c
  95d:922,93c 95e:92b,93c 95f:92f,93c 9dc:9a1,9bc 9dd:9a2,9bc 9df:9af,9bc a33:a32,a3c a36:a38,a3c
  a59:a16,a3c a5a:a17,a3c a5b:a1c,a3c a5e:a2b,a3c b5c:b21,b3c b5d:b22,b3c e33:e4d,e32 eb3:ecd,eb2
  edc:eab,e99 edd:eab,ea1 f0c:f0b f43:f42,fb7 f4d:f4c,fb7 f52:f51,fb7 f57:f56,fb7 f5c:f5b,fb7
  f69:f40,fb5 f73:f71,f72 f75:f71,f74 f76:fb2,f80 f77:fb2,f71,f80 f78:fb3,f80 f79:fb3,f71,f80
  f81:f71,f80 f93:f92,fb7 f9d:f9c,fb7 fa2:fa1,fb7 fa7:fa6,fb7 fac:fab,fb7 fb9:f90,fb5
  10a0-10c5=2d00 10c7:2d27 10cd:2d2d 10fc:10dc 115f-1160: 13f8-13fd=13f0 17b4-17b5: 180b-180f:
  1c80:432 1c81:434 1c82:43e 1c83-1c84=441 1c85:442 1c86:44a 1c87:463 1c88:a64b 1c89:1c8a
  1c90-1cba=10d0 1cbd-1cbf=10fd 1d2c:61 1d2d:e6 1d2e-1d30/62 1d31:65 1d32:1dd 1d33-1d3a=67 1d3c:6f
  1d3d:223 1d3e:70 1d3f:72 1d40-1d41=74 1d42:77 1d43:61 1d44-1d45=250 1d46:1d02 1d47:62
  1d48-1d49=64 1d4a:259 1d4b-1d4c=25b 1d4d:67 1d4f:6b 1d50:6d 1d51:14b 1d52:6f 1d53:254
  1d54-1d55=1d16 1d56:70 1d57-1d58=74 1d59:1d1d 1d5a:26f 1d5b:76 1d5c:1d25 1d5d-1d5f=3b2
  1d60-1d61=3c6 1d62:69 1d63:72 1d64-1d65=75 1d66-1d67=3b2 1d68:3c1 1d69-1d6a=3c6 1d78:43d 1d9b:252
  1d9c:63 1d9d:255 1d9e:f0 1d9f:25c 1da0:66 1da1:25f 1da2:261 1da3:265 1da4-1da6=268 1da7:1d7b
  1da8:29d 1da9:26d 1daa:1d85 1dab:29f 1dac:271 1dad:270 1dae-1db1=272 1db2:278 1db3-1db4=282
  1db5:1ab 1db6-1db7=289 1db8:1d1c 1db9-1dba=28b 1dbb:7a 1dbc-1dbe=290 1dbf:3b8 1e00-1e94/1e01
  1e9a:61,2be 1e9b:1e61 1e9e:df 1ea0-1efe/1ea1 1f08-1f0f=1f00 1f18-1f1d=1f10 1f28-1f2f=1f20
  1f38-1f3f=1f30 1f48-1f4d=1f40 1f59-1f5f/1f51 1f68-1f6f=1f60 1f71:3ac 1f73:3ad 1f75:3ae 1f77:3af
  1f79:3cc 1f7b:3cd 1f7d:3ce 1f80:1f00,3b9 1f81:1f01,3b9 1f82:1f02,3b9 1f83:1f03,3b9 1f84:1f04,3b9
  1f85:1f05,3b9 1f86:1f06,3b9 1f87:1f07,3b9 1f88:1f00,3b9 1f89:1f01,3b9 1f8a:1f02,3b9 1f8b:1f03,3b9
  1f8c:1f04,3b9 1f8d:1f05,3b9 1f8e:1f06,3b9 1f8f:1f07,3b9 1f90:1f20,3b9 1f91:1f21,3b9 1f92:1f22,3b9
  1f93:1f23,3b9 1f94:1f24,3b9 1f95:1f25,3b9 1f96:1f26,3b9 1f97:1f27,3b9 1f98:1f20,3b9 1f99:1f21,3b9
  1f9a:1f22,3b9 1f9b:1f23,3b9 1f9c:1f24,3b9 1f9d:1f25,3b9 1f9e:1f26,3b9 1f9f:1f27,3b9 1fa0:1f60,3b9
  1fa1:1f61,3b9 1fa2:1f62,3b9 1fa3:1f63,3b9 1fa4:1f64,3b9 1fa5:1f65,3b9 1fa6:1f66,3b9 1fa7:1f67,3b9
  1fa8:1f60,3b9 1fa9:1f61,3b9 1faa:1f62,3b9 1fab:1f63,3b9 1fac:1f64,3b9 1fad:1f65,3b9 1fae:1f66,3b9
  1faf:1f67,3b9 1fb2:1f70,3b9 1fb3:3b1,3b9 1fb4:3ac,3b9 1fb7:1fb6,3b9 1fb8-1fb9=1fb0 1fba:1f70
  1fbb:3ac 1fbc:3b1,3b9 1fbd:20,313 1fbe:3b9 1fbf:20,313 1fc0:20,342 1fc1:20,308,342 1fc2:1f74,3b9
  1fc3:3b7,3b9 1fc4:3ae,3b9 1fc7:1fc6,3b9 1fc8:1f72 1fc9:3ad 1fca:1f74 1fcb:3ae 1fcc:3b7,3b9
  1fcd:20,313,300 1fce:20,313,301 1fcf:20,313,342 1fd3:390 1fd8-1fd9=1fd0 1fda:1f76 1fdb:3af
  1fdd:20,314,300 1fde:20,314,301 1fdf:20,314,342 1fe3:3b0 1fe8-1fe9=1fe0 1fea:1f7a 1feb:3cd
  1fec:1fe5 1fed:20,308,300 1fee:20,308,301 1fef:60 1ff2:1f7c,3b9 1ff3:3c9,3b9 1ff4:3ce,3b9
  1ff7:1ff6,3b9 1ff8:1f78 1ff9:3cc 1ffa:1f7c 1ffb:3ce 1ffc:3c9,3b9 1ffd:20,301 1ffe:20,314
  2000-200a:20 200b: 2011:2010 2017:20,333 202f:20 2033:2032,2032 2034:2032,2032,2032
  2036:2035,2035 2037:2035,2035,2035 203c:21,21 203e:20,305 2047:3f,3f 2048:3f,21 2049:21,3f
  2057:2032,2032,2032,2032 205f:20 2060-2064: 206a-206f: 2070:30 2071:69 2074-2079=34 207a:2b
  207b:2212 207c:3d 207d-207e=28 207f:6e 2080-2089=30 208a:2b 208b:2212 208c:3d 208d-208e=28
  2090:61 2091:65 2092:6f 2093:78 2094:259 2095:68 2096-2099=6b 209a:70 209b-209c=73 20a8:72,73
  2100:61,2f,63 2101:61,2f,73 2102:63 2103:b0,63 2105:63,2f,6f 2106:63,2f,75 2107:25b 2109:b0,66
  210a-210b=67 210c-210e:68 210f:127 2110-2111:69 2112-2113:6c 2115:6e 2116:6e,6f 2119-211b=70
  211c-211d:72 2120:73,6d 2121:74,65,6c 2122:74,6d 2124:7a 2126:3c9 2128:7a 212a:6b 212b:e5
  212c-212d=62 212f-2130:65 2131:66 2132:214e 2133:6d 2134:6f 2135-2138=5d0 2139:69 213b:66,61,78
  213c:3c0 213d-213e:3b3 213f:3c0 2140:2211 2145-2146:64 2147:65 2148-2149=69 2150:31,2044,37
  2151:31,2044,39 2152:31,2044,31,30 2153:31,2044,33 2154:32,2044,33 2155:31,2044,35
  2156:32,2044,35 2157:33,2044,35 2158:34,2044,35 2159:31,2044,36 215a:35,2044,36 215b:31,2044,38
  215c:33,2044,38 215d:35,2044,38 215e:37,2044,38 215f:31,2044 2160:69 2161:69,69 2162:69,69,69
  2163:69,76 2164:76 2165:76,69 2166:76,69,69 2167:76,69,69,69 2168:69,78 2169:78 216a:78,69
  216b:78,69,69 216c:6c 216d-216e=63 216f:6d 2170:69 2171:69,69 2172:69,69,69 2173:69,76 2174:76
  2175:76,69 2176:76,69,69 2177:76,69,69,69 2178:69,78 2179:78 217a:78,69 217b:78,69,69 217c:6c
  217d-217e=63 217f:6d 2183:2184 2189:30,2044,33 222c:222b,222b 222d:222b,222b,222b 222f:222e,222e
  2230:222e,222e,222e 2329-232a=3008 2460-2468=31 2469:31,30 246a:31,31 246b:31,32 246c:31,33
  246d:31,34 246e:31,35 246f:31,36 2470:31,37 2471:31,38 2472:31,39 2473:32,30 2474:28,31,29
  2475:28,32,29 2476:28,33,29 2477:28,34,29 2478:28,35,29 2479:28,36,29 247a:28,37,29 247b:28,38,29
  247c:28,39,29 247d:28,31,30,29 247e:28,31,31,29 247f:28,31,32,29 2480:28,31,33,29
  2481:28,31,34,29 2482:28,31,35,29 2483:28,31,36,29 2484:28,31,37,29 2485:28,31,38,29
  2486:28,31,39,29 2487:28,32,30,29 249c:28,61,29 249d:28,62,29 249e:28,63,29 249f:28,64,29
  24a0:28,65,29 24a1:28,66,29 24a2:28,67,29 24a3:28,68,29 24a4:28,69,29 24a5:28,6a,29 24a6:28,6b,29
  24a7:28,6c,29 24a8:28,6d,29 24a9:28,6e,29 24aa:28,6f,29 24ab:28,70,29 24ac:28,71,29 24ad:28,72,29
  24ae:28,73,29 24af:28,74,29 24b0:28,75,29 24b1:28,76,29 24b2:28,77,29 24b3:28,78,29 24b4:28,79,29
  24b5:28,7a,29 24b6-24cf=61 24d0-24e9=61 24ea:30 2a0c:222b,222b,222b,222b 2a74:3a,3a,3d 2a75:3d,3d
  2a76:3d,3d,3d 2adc:2add,338 2c00-2c2f=2c30 2c60:2c61 2c62:26b 2c63:1d7d 2c64:27d 2c67-2c6b/2c68
  2c6d:251 2c6e:271 2c6f:250 2c70:252 2c72:2c73 2c75:2c76 2c7c:6a 2c7d:76 2c7e-2c7f=23f
  2c80-2ce2/2c81 2ceb-2ced/2cec 2cf2:2cf3 2d6f:2d61 2e9f:6bcd 2ef3:9f9f 2f00:4e00 2f01:4e28
  2f02:4e36 2f03:4e3f 2f04:4e59 2f05:4e85 2f06:4e8c 2f07:4ea0 2f08:4eba 2f09:513f 2f0a:5165
  2f0b:516b 2f0c:5182 2f0d:5196 2f0e:51ab 2f0f:51e0 2f10:51f5 2f11:5200 2f12:529b 2f13:52f9
  2f14:5315 2f15:531a 2f16:5338 2f17:5341 2f18:535c 2f19:5369 2f1a:5382 2f1b:53b6 2f1c:53c8
  2f1d:53e3 2f1e:56d7 2f1f:571f 2f20:58eb 2f21:5902 2f22:590a 2f23:5915 2f24:5927 2f25:5973
  2f26:5b50 2f27:5b80 2f28:5bf8 2f29:5c0f 2f2a:5c22 2f2b:5c38 2f2c:5c6e 2f2d:5c71 2f2e:5ddb
  2f2f:5de5 2f30:5df1 2f31:5dfe 2f32:5e72 2f33:5e7a 2f34:5e7f 2f35:5ef4 2f36:5efe 2f37:5f0b
  2f38:5f13 2f39:5f50 2f3a:5f61 2f3b:5f73 2f3c:5fc3 2f3d:6208 2f3e:6236 2f3f:624b 2f40:652f
  2f41:6534 2f42:6587 2f43:6597 2f44:65a4 2f45:65b9 2f46:65e0 2f47:65e5 2f48:66f0 2f49:6708
  2f4a:6728 2f4b:6b20 2f4c:6b62 2f4d:6b79 2f4e:6bb3 2f4f:6bcb 2f50:6bd4 2f51:6bdb 2f52:6c0f
  2f53:6c14 2f54:6c34 2f55:706b 2f56:722a 2f57:7236 2f58:723b 2f59:723f 2f5a:7247 2f5b:7259
  2f5c:725b 2f5d:72ac 2f5e:7384 2f5f:7389 2f60:74dc 2f61:74e6 2f62:7518 2f63:751f 2f64:7528
  2f65:7530 2f66:758b 2f67:7592 2f68:7676 2f69:767d 2f6a:76ae 2f6b:76bf 2f6c:76ee 2f6d:77db
  2f6e:77e2 2f6f:77f3 2f70:793a 2f71:79b8 2f72:79be 2f73:7a74 2f74:7acb 2f75:7af9 2f76:7c73
  2f77:7cf8 2f78:7f36 2f79:7f51 2f7a:7f8a 2f7b:7fbd 2f7c:8001 2f7d:800c 2f7e:8012 2f7f:8033
  2f80:807f 2f81:8089 2f82:81e3 2f83:81ea 2f84:81f3 2f85:81fc 2f86:820c 2f87:821b 2f88:821f
  2f89:826e 2f8a:8272 2f8b:8278 2f8c:864d 2f8d:866b 2f8e:8840 2f8f:884c 2f90:8863 2f91:897e
  2f92:898b 2f93:89d2 2f94:8a00 2f95:8c37 2f96:8c46 2f97:8c55 2f98:8c78 2f99:8c9d 2f9a:8d64
  2f9b:8d70 2f9c:8db3 2f9d:8eab 2f9e:8eca 2f9f:8f9b 2fa0:8fb0 2fa1:8fb5 2fa2:9091 2fa3:9149
  2fa4:91c6 2fa5:91cc 2fa6:91d1 2fa7:9577 2fa8:9580 2fa9:961c 2faa:96b6 2fab:96b9 2fac:96e8
  2fad:9751 2fae:975e 2faf:9762 2fb0:9769 2fb1:97cb 2fb2:97ed 2fb3:97f3 2fb4:9801 2fb5:98a8
  2fb6:98db 2fb7:98df 2fb8:9996 2fb9:9999 2fba:99ac 2fbb:9aa8 2fbc:9ad8 2fbd:9adf 2fbe:9b25
  2fbf:9b2f 2fc0:9b32 2fc1:9b3c 2fc2:9b5a 2fc3:9ce5 2fc4:9e75 2fc5:9e7f 2fc6:9ea5 2fc7:9ebb
  2fc8:9ec3 2fc9:9ecd 2fca:9ed1 2fcb:9ef9 2fcc:9efd 2fcd:9f0e 2fce:9f13 2fcf:9f20 2fd0:9f3b
  2fd1:9f4a 2fd2:9f52 2fd3:9f8d 2fd4:9f9c 2fd5:9fa0 3000:20 3002:2e 3036:3012 3038:5341
  3039-303a=5344 309b:20,3099 309c:20,309a 309f:3088,308a 30ff:30b3,30c8 3131-3132=1100 3133:11aa
  3134:1102 3135-3136=11ac 3137-3139=1103 313a-313f=11b0 3140:111a 3141-3143=1106 3144:1121
  3145-314e=1109 314f-3163=1161 3164: 3165-3166=1114 3167-3168=11c7 3169:11cc 316a:11ce 316b:11d3
  316c:11d7 316d:11d9 316e:111c 316f:11dd 3170:11df 3171-3172=111d 3173:1120 3174-3175=1122
  3176:1127 3177:1129 3178-317c=112b 317d:1132 317e:1136 317f:1140 3180:1147 3181:114c
  3182-3183=11f1 3184-3186=1157 3187-3188=1184 3189:1188 318a-318b=1191 318c:1194 318d:119e
  318e:11a1 3192:4e00 3193:4e8c 3194:4e09 3195:56db 3196:4e0a 3197:4e2d 3198:4e0b 3199:7532
  319a:4e59 319b:4e19 319c:4e01 319d:5929 319e:5730 319f:4eba 3200:28,1100,29 3201:28,1102,29
  3202:28,1103,29 3203:28,1105,29 3204:28,1106,29 3205:28,1107,29 3206:28,1109,29 3207:28,110b,29
  3208:28,110c,29 3209:28,110e,29 320a:28,110f,29 320b:28,1110,29 320c:28,1111,29 320d:28,1112,29
  320e:28,ac00,29 320f:28,b098,29 3210:28,b2e4,29 3211:28,b77c,29 3212:28,b9c8,29 3213:28,bc14,29
  3214:28,c0ac,29 3215:28,c544,29 3216:28,c790,29 3217:28,cc28,29 3218:28,ce74,29 3219:28,d0c0,29
  321a:28,d30c,29 321b:28,d558,29 321c:28,c8fc,29 321d:28,c624,c804,29 321e:28,c624,d6c4,29
  3220:28,4e00,29 3221:28,4e8c,29 3222:28,4e09,29 3223:28,56db,29 3224:28,4e94,29 3225:28,516d,29
  3226:28,4e03,29 3227:28,516b,29 3228:28,4e5d,29 3229:28,5341,29 322a:28,6708,29 322b:28,706b,29
  322c:28,6c34,29 322d:28,6728,29 322e:28,91d1,29 322f:28,571f,29 3230:28,65e5,29 3231:28,682a,29
  3232:28,6709,29 3233:28,793e,29 3234:28,540d,29 3235:28,7279,29 3236:28,8ca1,29 3237:28,795d,29
  3238:28,52b4,29 3239:28,4ee3,29 323a:28,547c,29 323b:28,5b66,29 323c:28,76e3,29 323d:28,4f01,29
  323e:28,8cc7,29 323f:28,5354,29 3240:28,796d,29 3241:28,4f11,29 3242:28,81ea,29 3243:28,81f3,29
  3244:554f 3245:5e7c 3246:6587 3247:7b8f 3250:70,74,65 3251:32,31 3252:32,32 3253:32,33 3254:32,34
  3255:32,35 3256:32,36 3257:32,37 3258:32,38 3259:32,39 325a:33,30 325b:33,31 325c:33,32
  325d:33,33 325e:33,34 325f:33,35 3260:1100 3261-3262=1102 3263-3265=1105 3266:1109 3267-3268=110b
  3269-326d=110e 326e:ac00 326f:b098 3270:b2e4 3271:b77c 3272:b9c8 3273:bc14 3274:c0ac 3275:c544
  3276:c790 3277:cc28 3278:ce74 3279:d0c0 327a:d30c 327b:d558 327c:cc38,ace0 327d:c8fc,c758
  327e:c6b0 3280:4e00 3281:4e8c 3282:4e09 3283:56db 3284:4e94 3285:516d 3286:4e03 3287:516b
  3288:4e5d 3289:5341 328a:6708 328b:706b 328c:6c34 328d:6728 328e:91d1 328f:571f 3290:65e5
  3291:682a 3292:6709 3293:793e 3294:540d 3295:7279 3296:8ca1 3297:795d 3298:52b4 3299:79d8
  329a:7537 329b:5973 329c:9069 329d:512a 329e:5370 329f:6ce8 32a0:9805 32a1:4f11 32a2:5199
  32a3:6b63 32a4:4e0a 32a5:4e2d 32a6:4e0b 32a7:5de6 32a8:53f3 32a9:533b 32aa:5b97 32ab:5b66
  32ac:76e3 32ad:4f01 32ae:8cc7 32af:5354 32b0:591c 32b1:33,36 32b2:33,37 32b3:33,38 32b4:33,39
  32b5:34,30 32b6:34,31 32b7:34,32 32b8:34,33 32b9:34,34 32ba:34,35 32bb:34,36 32bc:34,37
  32bd:34,38 32be:34,39 32bf:35,30 32c0:31,6708 32c1:32,6708 32c2:33,6708 32c3:34,6708 32c4:35,6708
  32c5:36,6708 32c6:37,6708 32c7:38,6708 32c8:39,6708 32c9:31,30,6708 32ca:31,31,6708
  32cb:31,32,6708 32cc:68,67 32cd:65,72,67 32ce:65,76 32cf:6c,74,64 32d0:30a2 32d1:30a4 32d2:30a6
  32d3:30a8 32d4-32d5=30aa 32d6:30ad 32d7:30af 32d8:30b1 32d9:30b3 32da:30b5 32db:30b7 32dc:30b9
  32dd:30bb 32de:30bd 32df:30bf 32e0:30c1 32e1:30c4 32e2:30c6 32e3:30c8 32e4-32e9=30ca 32ea:30d2
  32eb:30d5 32ec:30d8 32ed:30db 32ee-32f2=30de 32f3:30e4 32f4:30e6 32f5-32fa=30e8 32fb-32fe=30ef
  32ff:4ee4,548c 3300:30a2,30d1,30fc,30c8 3301:30a2,30eb,30d5,30a1 3302:30a2,30f3,30da,30a2
  3303:30a2,30fc,30eb 3304:30a4,30cb,30f3,30b0 3305:30a4,30f3,30c1 3306:30a6,30a9,30f3
  3307:30a8,30b9,30af,30fc,30c9 3308:30a8,30fc,30ab,30fc 3309:30aa,30f3,30b9 330a:30aa,30fc,30e0
  330b:30ab,30a4,30ea 330c:30ab,30e9,30c3,30c8 330d:30ab,30ed,30ea,30fc 330e:30ac,30ed,30f3
  330f:30ac,30f3,30de 3310:30ae,30ac 3311:30ae,30cb,30fc 3312:30ad,30e5,30ea,30fc
  3313:30ae,30eb,30c0,30fc 3314:30ad,30ed 3315:30ad,30ed,30b0,30e9,30e0
  3316:30ad,30ed,30e1,30fc,30c8,30eb 3317:30ad,30ed,30ef,30c3,30c8 3318:30b0,30e9,30e0
  3319:30b0,30e9,30e0,30c8,30f3 331a:30af,30eb,30bc,30a4,30ed 331b:30af,30ed,30fc,30cd
  331c:30b1,30fc,30b9 331d:30b3,30eb,30ca 331e:30b3,30fc,30dd 331f:30b5,30a4,30af,30eb
  3320:30b5,30f3,30c1,30fc,30e0 3321:30b7,30ea,30f3,30b0 3322:30bb,30f3,30c1 3323:30bb,30f3,30c8
  3324:30c0,30fc,30b9 3325:30c7,30b7 3326:30c9,30eb 3327:30c8,30f3 3328:30ca,30ce
  3329:30ce,30c3,30c8 332a:30cf,30a4,30c4 332b:30d1,30fc,30bb,30f3,30c8 332c:30d1,30fc,30c4
  332d:30d0,30fc,30ec,30eb 332e:30d4,30a2,30b9,30c8,30eb 332f:30d4,30af,30eb 3330:30d4,30b3
  3331:30d3,30eb 3332:30d5,30a1,30e9,30c3,30c9 3333:30d5,30a3,30fc,30c8
  3334:30d6,30c3,30b7,30a7,30eb 3335:30d5,30e9,30f3 3336:30d8,30af,30bf,30fc,30eb 3337:30da,30bd
  3338:30da,30cb,30d2 3339:30d8,30eb,30c4 333a:30da,30f3,30b9 333b:30da,30fc,30b8
  333c:30d9,30fc,30bf 333d:30dd,30a4,30f3,30c8 333e:30dc,30eb,30c8 333f:30db,30f3
  3340:30dd,30f3,30c9 3341:30db,30fc,30eb 3342:30db,30fc,30f3 3343:30de,30a4,30af,30ed
  3344:30de,30a4,30eb 3345:30de,30c3,30cf 3346:30de,30eb,30af 3347:30de,30f3,30b7,30e7,30f3
  3348:30df,30af,30ed,30f3 3349:30df,30ea 334a:30df,30ea,30d0,30fc,30eb 334b:30e1,30ac
  334c:30e1,30ac,30c8,30f3 334d:30e1,30fc,30c8,30eb 334e:30e4,30fc,30c9 334f:30e4,30fc,30eb
  3350:30e6,30a2,30f3 3351:30ea,30c3,30c8,30eb 3352:30ea,30e9 3353:30eb,30d4,30fc
  3354:30eb,30fc,30d6,30eb 3355:30ec,30e0 3356:30ec,30f3,30c8,30b2,30f3 3357:30ef,30c3,30c8
  3358:30,70b9 3359:31,70b9 335a:32,70b9 335b:33,70b9 335c:34,70b9 335d:35,70b9 335e:36,70b9
  335f:37,70b9 3360:38,70b9 3361:39,70b9 3362:31,30,70b9 3363:31,31,70b9 3364:31,32,70b9
  3365:31,33,70b9 3366:31,34,70b9 3367:31,35,70b9 3368:31,36,70b9 3369:31,37,70b9 336a:31,38,70b9
  336b:31,39,70b9 336c:32,30,70b9 336d:32,31,70b9 336e:32,32,70b9 336f:32,33,70b9 3370:32,34,70b9
  3371:68,70,61 3372:64,61 3373:61,75 3374:62,61,72 3375:6f,76 3376:70,63 3377:64,6d 3378:64,6d,32
  3379:64,6d,33 337a:69,75 337b:5e73,6210 337c:662d,548c 337d:5927,6b63 337e:660e,6cbb
  337f:682a,5f0f,4f1a,793e 3380:70,61 3381:6e,61 3382:3bc,61 3383:6d,61 3384:6b,61 3385:6b,62
  3386:6d,62 3387:67,62 3388:63,61,6c 3389:6b,63,61,6c 338a:70,66 338b:6e,66 338c:3bc,66
  338d:3bc,67 338e:6d,67 338f:6b,67 3390:68,7a 3391:6b,68,7a 3392:6d,68,7a 3393:67,68,7a
  3394:74,68,7a 3395:3bc,6c 3396:6d,6c 3397:64,6c 3398:6b,6c 3399:66,6d 339a:6e,6d 339b:3bc,6d
  339c:6d,6d 339d:63,6d 339e:6b,6d 339f:6d,6d,32 33a0:63,6d,32 33a1:6d,32 33a2:6b,6d,32
  33a3:6d,6d,33 33a4:63,6d,33 33a5:6d,33 33a6:6b,6d,33 33a7:6d,2215,73 33a8:6d,2215,73,32
  33a9:70,61 33aa:6b,70,61 33ab:6d,70,61 33ac:67,70,61 33ad:72,61,64 33ae:72,61,64,2215,73
  33af:72,61,64,2215,73,32 33b0:70,73 33b1:6e,73 33b2:3bc,73 33b3:6d,73 33b4:70,76 33b5:6e,76
  33b6:3bc,76 33b7:6d,76 33b8:6b,76 33b9:6d,76 33ba:70,77 33bb:6e,77 33bc:3bc,77 33bd:6d,77
  33be:6b,77 33bf:6d,77 33c0:6b,3c9 33c1:6d,3c9 33c3:62,71 33c4:63,63 33c5:63,64 33c6:63,2215,6b,67
  33c8:64,62 33c9:67,79 33ca:68,61 33cb:68,70 33cc:69,6e 33cd:6b,6b 33ce:6b,6d 33cf:6b,74
  33d0:6c,6d 33d1:6c,6e 33d2:6c,6f,67 33d3:6c,78 33d4:6d,62 33d5:6d,69,6c 33d6:6d,6f,6c 33d7:70,68
  33d9:70,70,6d 33da:70,72 33db:73,72 33dc:73,76 33dd:77,62 33de:76,2215,6d 33df:61,2215,6d
  33e0:31,65e5 33e1:32,65e5 33e2:33,65e5 33e3:34,65e5 33e4:35,65e5 33e5:36,65e5 33e6:37,65e5
  33e7:38,65e5 33e8:39,65e5 33e9:31,30,65e5 33ea:31,31,65e5 33eb:31,32,65e5 33ec:31,33,65e5
  33ed:31,34,65e5 33ee:31,35,65e5 33ef:31,36,65e5 33f0:31,37,65e5 33f1:31,38,65e5 33f2:31,39,65e5
  33f3:32,30,65e5 33f4:32,31,65e5 33f5:32,32,65e5 33f6:32,33,65e5 33f7:32,34,65e5 33f8:32,35,65e5
  33f9:32,36,65e5 33fa:32,37,65e5 33fb:32,38,65e5 33fc:32,39,65e5 33fd:33,30,65e5 33fe:33,31,65e5
  33ff:67,61,6c a640-a66c/a641 a680-a69a/a681 a69c:44a a69d:44c a722-a72e/a723 a732-a76e/a733
  a770:a76f a779-a77b/a77a a77d:1d79 a77e-a786/a77f a78b:a78c a78d:265 a790-a792/a791
  a796-a7a8/a797 a7aa:266 a7ab:25c a7ac:261 a7ad:26c a7ae:26a a7b0:29e a7b1:287 a7b2:29d a7b3:ab53
  a7b4-a7c2/a7b5 a7c4:a794 a7c5:282 a7c6:1d8e a7c7-a7c9/a7c8 a7cb:264 a7cc-a7da/a7cd a7dc:19b
  a7f1:73 a7f2:63 a7f3:66 a7f4:71 a7f5:a7f6 a7f8:127 a7f9:153 ab5c:a727 ab5d:ab37 ab5e:26b
  ab5f:ab52 ab69:28d ab70-abbf=13a0 f900:8c48 f901:66f4 f902:8eca f903:8cc8 f904:6ed1 f905:4e32
  f906:53e5 f907-f908:9f9c f909:5951 f90a:91d1 f90b:5587 f90c:5948 f90d:61f6 f90e:7669 f90f:7f85
  f910:863f f911:87ba f912:88f8 f913:908f f914:6a02 f915:6d1b f916:70d9 f917:73de f918:843d
  f919:916a f91a:99f1 f91b:4e82 f91c:5375 f91d:6b04 f91e:721b f91f:862d f920:9e1e f921:5d50
  f922:6feb f923:85cd f924:8964 f925:62c9 f926:81d8 f927:881f f928:5eca f929:6717 f92a:6d6a
  f92b:72fc f92c:90ce f92d:4f86 f92e:51b7 f92f:52de f930:64c4 f931:6ad3 f932:7210 f933:76e7
  f934:8001 f935:8606 f936:865c f937:8def f938:9732 f939:9b6f f93a:9dfa f93b:788c f93c:797f
  f93d:7da0 f93e:83c9 f93f:9304 f940:9e7f f941:8ad6 f942:58df f943:5f04 f944:7c60 f945:807e
  f946:7262 f947:78ca f948:8cc2 f949:96f7 f94a:58d8 f94b:5c62 f94c:6a13 f94d:6dda f94e:6f0f
  f94f:7d2f f950:7e37 f951:964b f952:52d2 f953:808b f954:51dc f955:51cc f956:7a1c f957:7dbe
  f958:83f1 f959:9675 f95a:8b80 f95b:62cf f95c:6a02 f95d:8afe f95e:4e39 f95f:5be7 f960:6012
  f961:7387 f962:7570 f963:5317 f964:78fb f965:4fbf f966:5fa9 f967:4e0d f968:6ccc f969:6578
  f96a:7d22 f96b:53c3 f96c:585e f96d:7701 f96e:8449 f96f:8aaa f970:6bba f971:8fb0 f972:6c88
  f973:62fe f974:82e5 f975:63a0 f976:7565 f977:4eae f978:5169 f979:51c9 f97a:6881 f97b:7ce7
  f97c:826f f97d:8ad2 f97e:91cf f97f:52f5 f980:5442 f981:5973 f982:5eec f983:65c5 f984:6ffe
  f985:792a f986:95ad f987:9a6a f988:9e97 f989:9ece f98a:529b f98b:66c6 f98c:6b77 f98d:8f62
  f98e:5e74 f98f:6190 f990:6200 f991:649a f992:6f23 f993:7149 f994:7489 f995:79ca f996:7df4
  f997:806f f998:8f26 f999:84ee f99a:9023 f99b:934a f99c:5217 f99d:52a3 f99e:54bd f99f:70c8
  f9a0:88c2 f9a1:8aaa f9a2:5ec9 f9a3:5ff5 f9a4:637b f9a5:6bae f9a6:7c3e f9a7:7375 f9a8:4ee4
  f9a9:56f9 f9aa:5be7 f9ab:5dba f9ac:601c f9ad:73b2 f9ae:7469 f9af:7f9a f9b0:8046 f9b1:9234
  f9b2:96f6 f9b3:9748 f9b4:9818 f9b5:4f8b f9b6:79ae f9b7:91b4 f9b8:96b8 f9b9:60e1 f9ba:4e86
  f9bb:50da f9bc:5bee f9bd:5c3f f9be:6599 f9bf:6a02 f9c0:71ce f9c1:7642 f9c2:84fc f9c3:907c
  f9c4:9f8d f9c5:6688 f9c6:962e f9c7:5289 f9c8:677b f9c9:67f3 f9ca:6d41 f9cb:6e9c f9cc:7409
  f9cd:7559 f9ce:786b f9cf:7d10 f9d0:985e f9d1:516d f9d2:622e f9d3:9678 f9d4:502b f9d5:5d19
  f9d6:6dea f9d7:8f2a f9d8:5f8b f9d9:6144 f9da:6817 f9db:7387 f9dc:9686 f9dd:5229 f9de:540f
  f9df:5c65 f9e0:6613 f9e1:674e f9e2:68a8 f9e3:6ce5 f9e4:7406 f9e5:75e2 f9e6:7f79 f9e7:88cf
  f9e8:88e1 f9e9:91cc f9ea:96e2 f9eb:533f f9ec:6eba f9ed:541d f9ee:71d0 f9ef:7498 f9f0:85fa
  f9f1:96a3 f9f2:9c57 f9f3:9e9f f9f4:6797 f9f5:6dcb f9f6:81e8 f9f7:7acb f9f8:7b20 f9f9:7c92
  f9fa:72c0 f9fb:7099 f9fc:8b58 f9fd:4ec0 f9fe:8336 f9ff:523a fa00:5207 fa01:5ea6 fa02:62d3
  fa03:7cd6 fa04:5b85 fa05:6d1e fa06:66b4 fa07:8f3b fa08:884c fa09:964d fa0a:898b fa0b:5ed3
  fa0c:5140 fa0d:55c0 fa10:585a fa12:6674 fa15:51de fa16:732a fa17:76ca fa18:793c fa19:795e
  fa1a:7965 fa1b:798f fa1c:9756 fa1d:7cbe fa1e:7fbd fa20:8612 fa22:8af8 fa25:9038 fa26:90fd
  fa2a:98ef fa2b:98fc fa2c:9928 fa2d:9db4 fa2e:90de fa2f:96b7 fa30:4fae fa31:50e7 fa32:514d
  fa33:52c9 fa34:52e4 fa35:5351 fa36:559d fa37:5606 fa38:5668 fa39:5840 fa3a:58a8 fa3b:5c64
  fa3c:5c6e fa3d:6094 fa3e:6168 fa3f:618e fa40:61f2 fa41:654f fa42:65e2 fa43:6691 fa44:6885
  fa45:6d77 fa46:6e1a fa47:6f22 fa48:716e fa49:722b fa4a:7422 fa4b:7891 fa4c:793e fa4d:7949
  fa4e:7948 fa4f:7950 fa50:7956 fa51:795d fa52-fa53=798d fa54:7a40 fa55:7a81 fa56:7bc0 fa57:7df4
  fa58:7e09 fa59:7e41 fa5a:7f72 fa5b:8005 fa5c:81ed fa5d-fa5e:8279 fa5f:8457 fa60:8910 fa61:8996
  fa62:8b01 fa63:8b39 fa64:8cd3 fa65:8d08 fa66:8fb6 fa67:9038 fa68:96e3 fa69:97ff fa6a:983b
  fa6b:6075 fa6c:242ee fa6d:8218 fa70:4e26 fa71:51b5 fa72:5168 fa73:4f80 fa74:5145 fa75:5180
  fa76:52c7 fa77:52fa fa78:559d fa79:5555 fa7a:5599 fa7b:55e2 fa7c:585a fa7d:58b3 fa7e:5944
  fa7f:5954 fa80:5a62 fa81:5b28 fa82:5ed2 fa83:5ed9 fa84:5f69 fa85:5fad fa86:60d8 fa87:614e
  fa88:6108 fa89:618e fa8a:6160 fa8b:61f2 fa8c:6234 fa8d:63c4 fa8e:641c fa8f:6452 fa90:6556
  fa91:6674 fa92:6717 fa93:671b fa94:6756 fa95:6b79 fa96:6bba fa97:6d41 fa98:6edb fa99:6ecb
  fa9a:6f22 fa9b:701e fa9c:716e fa9d:77a7 fa9e:7235 fa9f:72af faa0:732a faa1:7471 faa2:7506
  faa3:753b faa4:761d faa5:761f faa6:76ca faa7:76db faa8:76f4 faa9:774a faaa:7740 faab:78cc
  faac:7ab1 faad:7bc0 faae:7c7b faaf:7d5b fab0:7df4 fab1:7f3e fab2:8005 fab3:8352 fab4:83ef
  fab5:8779 fab6:8941 fab7:8986 fab8:8996 fab9:8abf faba:8af8 fabb:8acb fabc:8b01 fabd:8afe
  fabe:8aed fabf:8b39 fac0:8b8a fac1:8d08 fac2:8f38 fac3:9072 fac4:9199 fac5:9276 fac6:967c
  fac7:96e3 fac8:9756 fac9:97db faca:97ff facb:980b facc:983b facd:9b12 face:9f9c facf:2284a
  fad0:22844 fad1:233d5 fad2:3b9d fad3:4018 fad4:4039 fad5:25249 fad6:25cd0 fad7:27ed3 fad8:9f43
  fad9:9f8e fb00:66,66 fb01:66,69 fb02:66,6c fb03:66,66,69 fb04:66,66,6c fb05-fb06:73,74
  fb13:574,576 fb14:574,565 fb15:574,56b fb16:57e,576 fb17:574,56d fb1d:5d9,5b4 fb1f:5f2,5b7
  fb20:5e2 fb21:5d0 fb22-fb23=5d3 fb24-fb26=5db fb27:5e8 fb28:5ea fb29:2b fb2a:5e9,5c1 fb2b:5e9,5c2
  fb2c:5e9,5bc,5c1 fb2d:5e9,5bc,5c2 fb2e:5d0,5b7 fb2f:5d0,5b8 fb30:5d0,5bc fb31:5d1,5bc
  fb32:5d2,5bc fb33:5d3,5bc fb34:5d4,5bc fb35:5d5,5bc fb36:5d6,5bc fb38:5d8,5bc fb39:5d9,5bc
  fb3a:5da,5bc fb3b:5db,5bc fb3c:5dc,5bc fb3e:5de,5bc fb40:5e0,5bc fb41:5e1,5bc fb43:5e3,5bc
  fb44:5e4,5bc fb46:5e6,5bc fb47:5e7,5bc fb48:5e8,5bc fb49:5e9,5bc fb4a:5ea,5bc fb4b:5d5,5b9
  fb4c:5d1,5bf fb4d:5db,5bf fb4e:5e4,5bf fb4f:5d0,5dc fb50-fb51:671 fb52-fb55:67b fb56-fb59:67e
  fb5a-fb5d:680 fb5e-fb61:67a fb62-fb65:67f fb66-fb69:679 fb6a-fb6d:6a4 fb6e-fb71:6a6 fb72-fb75:684
  fb76-fb79:683 fb7a-fb7d:686 fb7e-fb81:687 fb82-fb83:68d fb84-fb85:68c fb86-fb87:68e fb88-fb89:688
  fb8a-fb8b:698 fb8c-fb8d:691 fb8e-fb91:6a9 fb92-fb95:6af fb96-fb99:6b3 fb9a-fb9d:6b1 fb9e-fb9f:6ba
  fba0-fba3:6bb fba4-fba5:6c0 fba6-fba9:6c1 fbaa-fbad:6be fbae-fbaf:6d2 fbb0-fbb1:6d3 fbd3-fbd6:6ad
  fbd7-fbd8:6c7 fbd9-fbda:6c6 fbdb-fbdc:6c8 fbdd:6c7,674 fbde-fbdf:6cb fbe0-fbe1:6c5 fbe2-fbe3:6c9
  fbe4-fbe7:6d0 fbe8-fbe9:649 fbea-fbeb:626,627 fbec-fbed:626,6d5 fbee-fbef:626,648
  fbf0-fbf1:626,6c7 fbf2-fbf3:626,6c6 fbf4-fbf5:626,6c8 fbf6-fbf8:626,6d0 fbf9-fbfb:626,649
  fbfc-fbff:6cc fc00:626,62c fc01:626,62d fc02:626,645 fc03:626,649 fc04:626,64a fc05:628,62c
  fc06:628,62d fc07:628,62e fc08:628,645 fc09:628,649 fc0a:628,64a fc0b:62a,62c fc0c:62a,62d
  fc0d:62a,62e fc0e:62a,645 fc0f:62a,649 fc10:62a,64a fc11:62b,62c fc12:62b,645 fc13:62b,649
  fc14:62b,64a fc15:62c,62d fc16:62c,645 fc17:62d,62c fc18:62d,645 fc19:62e,62c fc1a:62e,62d
  fc1b:62e,645 fc1c:633,62c fc1d:633,62d fc1e:633,62e fc1f:633,645 fc20:635,62d fc21:635,645
  fc22:636,62c fc23:636,62d fc24:636,62e fc25:636,645 fc26:637,62d fc27:637,645 fc28:638,645
  fc29:639,62c fc2a:639,645 fc2b:63a,62c fc2c:63a,645 fc2d:641,62c fc2e:641,62d fc2f:641,62e
  fc30:641,645 fc31:641,649 fc32:641,64a fc33:642,62d fc34:642,645 fc35:642,649 fc36:642,64a
  fc37:643,627 fc38:643,62c fc39:643,62d fc3a:643,62e fc3b:643,644 fc3c:643,645 fc3d:643,649
  fc3e:643,64a fc3f:644,62c fc40:644,62d fc41:644,62e fc42:644,645 fc43:644,649 fc44:644,64a
  fc45:645,62c fc46:645,62d fc47:645,62e fc48:645,645 fc49:645,649 fc4a:645,64a fc4b:646,62c
  fc4c:646,62d fc4d:646,62e fc4e:646,645 fc4f:646,649 fc50:646,64a fc51:647,62c fc52:647,645
  fc53:647,649 fc54:647,64a fc55:64a,62c fc56:64a,62d fc57:64a,62e fc58:64a,645 fc59:64a,649
  fc5a:64a,64a fc5b:630,670 fc5c:631,670 fc5d:649,670 fc5e:20,64c,651 fc5f:20,64d,651
  fc60:20,64e,651 fc61:20,64f,651 fc62:20,650,651 fc63:20,651,670 fc64:626,631 fc65:626,632
  fc66:626,645 fc67:626,646 fc68:626,649 fc69:626,64a fc6a:628,631 fc6b:628,632 fc6c:628,645
  fc6d:628,646 fc6e:628,649 fc6f:628,64a fc70:62a,631 fc71:62a,632 fc72:62a,645 fc73:62a,646
  fc74:62a,649 fc75:62a,64a fc76:62b,631 fc77:62b,632 fc78:62b,645 fc79:62b,646 fc7a:62b,649
  fc7b:62b,64a fc7c:641,649 fc7d:641,64a fc7e:642,649 fc7f:642,64a fc80:643,627 fc81:643,644
  fc82:643,645 fc83:643,649 fc84:643,64a fc85:644,645 fc86:644,649 fc87:644,64a fc88:645,627
  fc89:645,645 fc8a:646,631 fc8b:646,632 fc8c:646,645 fc8d:646,646 fc8e:646,649 fc8f:646,64a
  fc90:649,670 fc91:64a,631 fc92:64a,632 fc93:64a,645 fc94:64a,646 fc95:64a,649 fc96:64a,64a
  fc97:626,62c fc98:626,62d fc99:626,62e fc9a:626,645 fc9b:626,647 fc9c:628,62c fc9d:628,62d
  fc9e:628,62e fc9f:628,645 fca0:628,647 fca1:62a,62c fca2:62a,62d fca3:62a,62e fca4:62a,645
  fca5:62a,647 fca6:62b,645 fca7:62c,62d fca8:62c,645 fca9:62d,62c fcaa:62d,645 fcab:62e,62c
  fcac:62e,645 fcad:633,62c fcae:633,62d fcaf:633,62e fcb0:633,645 fcb1:635,62d fcb2:635,62e
  fcb3:635,645 fcb4:636,62c fcb5:636,62d fcb6:636,62e fcb7:636,645 fcb8:637,62d fcb9:638,645
  fcba:639,62c fcbb:639,645 fcbc:63a,62c fcbd:63a,645 fcbe:641,62c fcbf:641,62d fcc0:641,62e
  fcc1:641,645 fcc2:642,62d fcc3:642,645 fcc4:643,62c fcc5:643,62d fcc6:643,62e fcc7:643,644
  fcc8:643,645 fcc9:644,62c fcca:644,62d fccb:644,62e fccc:644,645 fccd:644,647 fcce:645,62c
  fccf:645,62d fcd0:645,62e fcd1:645,645 fcd2:646,62c fcd3:646,62d fcd4:646,62e fcd5:646,645
  fcd6:646,647 fcd7:647,62c fcd8:647,645 fcd9:647,670 fcda:64a,62c fcdb:64a,62d fcdc:64a,62e
  fcdd:64a,645 fcde:64a,647 fcdf:626,645 fce0:626,647 fce1:628,645 fce2:628,647 fce3:62a,645
  fce4:62a,647 fce5:62b,645 fce6:62b,647 fce7:633,645 fce8:633,647 fce9:634,645 fcea:634,647
  fceb:643,644 fcec:643,645 fced:644,645 fcee:646,645 fcef:646,647 fcf0:64a,645 fcf1:64a,647
  fcf2:640,64e,651 fcf3:640,64f,651 fcf4:640,650,651 fcf5:637,649 fcf6:637,64a fcf7:639,649
  fcf8:639,64a fcf9:63a,649 fcfa:63a,64a fcfb:633,649 fcfc:633,64a fcfd:634,649 fcfe:634,64a
  fcff:62d,649 fd00:62d,64a fd01:62c,649 fd02:62c,64a fd03:62e,649 fd04:62e,64a fd05:635,649
  fd06:635,64a fd07:636,649 fd08:636,64a fd09:634,62c fd0a:634,62d fd0b:634,62e fd0c:634,645
  fd0d:634,631 fd0e:633,631 fd0f:635,631 fd10:636,631 fd11:637,649 fd12:637,64a fd13:639,649
  fd14:639,64a fd15:63a,649 fd16:63a,64a fd17:633,649 fd18:633,64a fd19:634,649 fd1a:634,64a
  fd1b:62d,649 fd1c:62d,64a fd1d:62c,649 fd1e:62c,64a fd1f:62e,649 fd20:62e,64a fd21:635,649
  fd22:635,64a fd23:636,649 fd24:636,64a fd25:634,62c fd26:634,62d fd27:634,62e fd28:634,645
  fd29:634,631 fd2a:633,631 fd2b:635,631 fd2c:636,631 fd2d:634,62c fd2e:634,62d fd2f:634,62e
  fd30:634,645 fd31:633,647 fd32:634,647 fd33:637,645 fd34:633,62c fd35:633,62d fd36:633,62e
  fd37:634,62c fd38:634,62d fd39:634,62e fd3a:637,645 fd3b:638,645 fd3c-fd3d:627,64b
  fd50:62a,62c,645 fd51-fd52:62a,62d,62c fd53:62a,62d,645 fd54:62a,62e,645 fd55:62a,645,62c
  fd56:62a,645,62d fd57:62a,645,62e fd58-fd59:62c,645,62d fd5a:62d,645,64a fd5b:62d,645,649
  fd5c:633,62d,62c fd5d:633,62c,62d fd5e:633,62c,649 fd5f-fd60:633,645,62d fd61:633,645,62c
  fd62-fd63:633,645,645 fd64-fd65:635,62d,62d fd66:635,645,645 fd67-fd68:634,62d,645
  fd69:634,62c,64a fd6a-fd6b:634,645,62e fd6c-fd6d:634,645,645 fd6e:636,62d,649
  fd6f-fd70:636,62e,645 fd71-fd72:637,645,62d fd73:637,645,645 fd74:637,645,64a fd75:639,62c,645
  fd76-fd77:639,645,645 fd78:639,645,649 fd79:63a,645,645 fd7a:63a,645,64a fd7b:63a,645,649
  fd7c-fd7d:641,62e,645 fd7e:642,645,62d fd7f:642,645,645 fd80:644,62d,645 fd81:644,62d,64a
  fd82:644,62d,649 fd83-fd84:644,62c,62c fd85-fd86:644,62e,645 fd87-fd88:644,645,62d
  fd89:645,62d,62c fd8a:645,62d,645 fd8b:645,62d,64a fd8c:645,62c,62d fd8d:645,62c,645
  fd8e:645,62e,62c fd8f:645,62e,645 fd92:645,62c,62e fd93:647,645,62c fd94:647,645,645
  fd95:646,62d,645 fd96:646,62d,649 fd97-fd98:646,62c,645 fd99:646,62c,649 fd9a:646,645,64a
  fd9b:646,645,649 fd9c-fd9d:64a,645,645 fd9e:628,62e,64a fd9f:62a,62c,64a fda0:62a,62c,649
  fda1:62a,62e,64a fda2:62a,62e,649 fda3:62a,645,64a fda4:62a,645,649 fda5:62c,645,64a
  fda6:62c,62d,649 fda7:62c,645,649 fda8:633,62e,649 fda9:635,62d,64a fdaa:634,62d,64a
  fdab:636,62d,64a fdac:644,62c,64a fdad:644,645,64a fdae:64a,62d,64a fdaf:64a,62c,64a
  fdb0:64a,645,64a fdb1:645,645,64a fdb2:642,645,64a fdb3:646,62d,64a fdb4:642,645,62d
  fdb5:644,62d,645 fdb6:639,645,64a fdb7:643,645,64a fdb8:646,62c,62d fdb9:645,62e,64a
  fdba:644,62c,645 fdbb:643,645,645 fdbc:644,62c,645 fdbd:646,62c,62d fdbe:62c,62d,64a
  fdbf:62d,62c,64a fdc0:645,62c,64a fdc1:641,645,64a fdc2:628,62d,64a fdc3:643,645,645
  fdc4:639,62c,645 fdc5:635,645,645 fdc6:633,62e,64a fdc7:646,62c,64a fdf0:635,644,6d2
  fdf1:642,644,6d2 fdf2:627,644,644,647 fdf3:627,643,628,631 fdf4:645,62d,645,62f
  fdf5:635,644,639,645 fdf6:631,633,648,644 fdf7:639,644,64a,647 fdf8:648,633,644,645
  fdf9:635,644,649 fdfa:635,644,649,20,627,644,644,647,20,639,644,64a,647,20,648,633,644,645
  fdfb:62c,644,20,62c,644,627,644,647 fdfc:631,6cc,627,644 fe00-fe0f: fe10:2c fe11:3001
  fe13-fe14=3a fe15:21 fe16:3f fe17-fe18=3016 fe31:2014 fe32:2013 fe33-fe34:5f fe35-fe36=28 fe37:7b
  fe38:7d fe39-fe3a=3014 fe3b-fe3c=3010 fe3d-fe3e=300a fe3f-fe40=3008 fe41-fe44=300c fe47:5b
  fe48:5d fe49-fe4c:20,305 fe4d-fe4f:5f fe50:2c fe51:3001 fe54:3b fe55:3a fe56:3f fe57:21 fe58:2014
  fe59-fe5a=28 fe5b:7b fe5c:7d fe5d-fe5e=3014 fe5f:23 fe60:26 fe61-fe62=2a fe63:2d fe64:3c fe65:3e
  fe66:3d fe68:5c fe69-fe6a=24 fe6b:40 fe70:20,64b fe71:640,64b fe72:20,64c fe74:20,64d fe76:20,64e
  fe77:640,64e fe78:20,64f fe79:640,64f fe7a:20,650 fe7b:640,650 fe7c:20,651 fe7d:640,651
  fe7e:20,652 fe7f:640,652 fe80-fe81=621 fe82-fe83=622 fe84-fe85=623 fe86-fe87=624 fe88-fe89=625
  fe8a-fe8c:626 fe8d-fe8e:627 fe8f-fe92:628 fe93-fe94:629 fe95-fe98:62a fe99-fe9c:62b fe9d-fea0:62c
  fea1-fea4:62d fea5-fea8:62e fea9-feaa:62f feab-feac:630 fead-feae:631 feaf-feb0:632 feb1-feb4:633
  feb5-feb8:634 feb9-febc:635 febd-fec0:636 fec1-fec4:637 fec5-fec8:638 fec9-fecc:639 fecd-fed0:63a
  fed1-fed4:641 fed5-fed8:642 fed9-fedc:643 fedd-fee0:644 fee1-fee4:645 fee5-fee8:646 fee9-feec:647
  feed-feee:648 feef-fef0:649 fef1-fef4:64a fef5-fef6:644,622 fef7-fef8:644,623 fef9-fefa:644,625
  fefb-fefc:644,627 feff: ff01-ff20=21 ff21-ff3a=61 ff3b-ff5e=5b ff5f-ff60=2985 ff61:2e
  ff62-ff63=300c ff64:3001 ff65:30fb ff66:30f2 ff67:30a1 ff68:30a3 ff69:30a5 ff6a:30a7 ff6b:30a9
  ff6c:30e3 ff6d:30e5 ff6e:30e7 ff6f:30c3 ff70:30fc ff71:30a2 ff72:30a4 ff73:30a6 ff74:30a8
  ff75-ff76=30aa ff77:30ad ff78:30af ff79:30b1 ff7a:30b3 ff7b:30b5 ff7c:30b7 ff7d:30b9 ff7e:30bb
  ff7f:30bd ff80:30bf ff81:30c1 ff82:30c4 ff83:30c6 ff84:30c8 ff85-ff8a=30ca ff8b:30d2 ff8c:30d5
  ff8d:30d8 ff8e:30db ff8f-ff93=30de ff94:30e4 ff95:30e6 ff96-ff9b=30e8 ff9c:30ef ff9d:30f3
  ff9e-ff9f=3099 ffa0: ffa1-ffa2=1100 ffa3:11aa ffa4:1102 ffa5-ffa6=11ac ffa7-ffa9=1103
  ffaa-ffaf=11b0 ffb0:111a ffb1-ffb3=1106 ffb4:1121 ffb5-ffbe=1109 ffc2-ffc7=1161 ffca-ffcf=1167
  ffd2-ffd7=116d ffda-ffdc=1173 ffe0-ffe1=a2 ffe2:ac ffe3:20,304 ffe4:a6 ffe5:a5 ffe6:20a9
  ffe8:2502 ffe9-ffec=2190 ffed:25a0 ffee:25cb 10400-10427=10428 104b0-104d3=104d8
  10570-1057a=10597 1057c-1058a=105a3 1058c-10592=105b3 10594-10595=105bb 10781-10782=2d0 10783:e6
  10784:299 10785:253 10787:2a3 10788:ab66 10789:2a5 1078a:2a4 1078b-1078c=256 1078d:1d91 1078e:258
  1078f:25e 10790:2a9 10791:264 10792:262 10793:260 10794:29b 10795:127 10796:29c 10797:267
  10798:284 10799-1079a=2aa 1079b:26c 1079c:1df04 1079d:a78e 1079e:26e 1079f:1df05 107a0:28e
  107a1:1df06 107a2:f8 107a3-107a4=276 107a5:71 107a6:27a 107a7:1df08 107a8-107a9=27d 107aa:280
  107ab:2a8 107ac:2a6 107ad:ab67 107ae:2a7 107af:288 107b0:2c71 107b2:28f 107b3-107b4=2a1 107b5:298
  107b6-107b8=1c0 107b9:1df0a 107ba:1df1e 10c80-10cb2=10cc0 10d50-10d65=10d70 118a0-118bf=118c0
  16e40-16e5f=16e60 16ea0-16eb8=16ebb 1bca0-1bca3: 1ccd6-1ccef=61 1ccf0-1ccf9=30 1d15e:1d157,1d165
  1d15f:1d158,1d165 1d160:1d158,1d165,1d16e 1d161:1d158,1d165,1d16f 1d162:1d158,1d165,1d170
  1d163:1d158,1d165,1d171 1d164:1d158,1d165,1d172 1d173-1d17a: 1d1bb:1d1b9,1d165 1d1bc:1d1ba,1d165
  1d1bd:1d1b9,1d165,1d16e 1d1be:1d1ba,1d165,1d16e 1d1bf:1d1b9,1d165,1d16f 1d1c0:1d1ba,1d165,1d16f
  1d400-1d419=61 1d41a-1d433=61 1d434-1d44d=61 1d44e-1d454=61 1d456-1d467=69 1d468-1d481=61
  1d482-1d49b=61 1d49c-1d49e/61 1d49f:64 1d4a2:67 1d4a5-1d4a6=6a 1d4a9-1d4ac=6e 1d4ae-1d4b5=73
  1d4b6-1d4b9=61 1d4bb-1d4bd/66 1d4be-1d4c3=69 1d4c5-1d4cf=70 1d4d0-1d4e9=61 1d4ea-1d503=61
  1d504-1d505=61 1d507-1d50a=64 1d50d-1d514=6a 1d516-1d51c=73 1d51e-1d537=61 1d538-1d539=61
  1d53b-1d53e=64 1d540-1d544=69 1d546:6f 1d54a-1d550=73 1d552-1d56b=61 1d56c-1d585=61
  1d586-1d59f=61 1d5a0-1d5b9=61 1d5ba-1d5d3=61 1d5d4-1d5ed=61 1d5ee-1d607=61 1d608-1d621=61
  1d622-1d63b=61 1d63c-1d655=61 1d656-1d66f=61 1d670-1d689=61 1d68a-1d6a3=61 1d6a4:131 1d6a5:237
  1d6a8-1d6b8=3b1 1d6b9:3b8 1d6ba-1d6c0=3c3 1d6c1:2207 1d6c2-1d6d2=3b1 1d6d3-1d6d4:3c3
  1d6d5-1d6da=3c4 1d6db:2202 1d6dc:3b5 1d6dd:3b8 1d6de:3ba 1d6df:3c6 1d6e0:3c1 1d6e1:3c0
  1d6e2-1d6f2=3b1 1d6f3:3b8 1d6f4-1d6fa=3c3 1d6fb:2207 1d6fc-1d70c=3b1 1d70d-1d70e:3c3
  1d70f-1d714=3c4 1d715:2202 1d716:3b5 1d717:3b8 1d718:3ba 1d719:3c6 1d71a:3c1 1d71b:3c0
  1d71c-1d72c=3b1 1d72d:3b8 1d72e-1d734=3c3 1d735:2207 1d736-1d746=3b1 1d747-1d748:3c3
  1d749-1d74e=3c4 1d74f:2202 1d750:3b5 1d751:3b8 1d752:3ba 1d753:3c6 1d754:3c1 1d755:3c0
  1d756-1d766=3b1 1d767:3b8 1d768-1d76e=3c3 1d76f:2207 1d770-1d780=3b1 1d781-1d782:3c3
  1d783-1d788=3c4 1d789:2202 1d78a:3b5 1d78b:3b8 1d78c:3ba 1d78d:3c6 1d78e:3c1 1d78f:3c0
  1d790-1d7a0=3b1 1d7a1:3b8 1d7a2-1d7a8=3c3 1d7a9:2207 1d7aa-1d7ba=3b1 1d7bb-1d7bc:3c3
  1d7bd-1d7c2=3c4 1d7c3:2202 1d7c4:3b5 1d7c5:3b8 1d7c6:3ba 1d7c7:3c6 1d7c8:3c1 1d7c9:3c0
  1d7ca-1d7cb:3dd 1d7ce-1d7d7=30 1d7d8-1d7e1=30 1d7e2-1d7eb=30 1d7ec-1d7f5=30 1d7f6-1d7ff=30
  1e030-1e038=430 1e039-1e03b=43a 1e03c-1e046=43e 1e047:44b 1e048-1e049=44d 1e04a:a689 1e04b:4d9
  1e04c:456 1e04d:458 1e04e:4e9 1e04f:4af 1e050:4cf 1e051-1e059=430 1e05a-1e05b=43a 1e05c-1e05d=43e
  1e05e:441 1e05f-1e064=443 1e065-1e066=44a 1e067:491 1e068:456 1e069:455 1e06a:45f 1e06b:4ab
  1e06c:a651 1e06d:4b1 1e900-1e921=1e922 1ee00-1ee01=627 1ee02:62c 1ee03:62f 1ee05:648 1ee06:632
  1ee07:62d 1ee08:637 1ee09:64a 1ee0a-1ee0d=643 1ee0e:633 1ee0f:639 1ee10:641 1ee11:635 1ee12:642
  1ee13:631 1ee14:634 1ee15-1ee16=62a 1ee17:62e 1ee18:630 1ee19:636 1ee1a:638 1ee1b:63a 1ee1c:66e
  1ee1d:6ba 1ee1e:6a1 1ee1f:66f 1ee21:628 1ee22:62c 1ee24:647 1ee27:62d 1ee29:64a 1ee2a-1ee2d=643
  1ee2e:633 1ee2f:639 1ee30:641 1ee31:635 1ee32:642 1ee34:634 1ee35-1ee36=62a 1ee37:62e 1ee39:636
  1ee3b:63a 1ee42:62c 1ee47:62d 1ee49:64a 1ee4b-1ee4d/644 1ee4e:633 1ee4f:639 1ee51:635 1ee52:642
  1ee54:634 1ee57:62e 1ee59:636 1ee5b:63a 1ee5d:6ba 1ee5f:66f 1ee61:628 1ee62:62c 1ee64:647
  1ee67:62d 1ee68:637 1ee69:64a 1ee6a-1ee6c/643 1ee6d:646 1ee6e:633 1ee6f:639 1ee70:641 1ee71:635
  1ee72:642 1ee74:634 1ee75-1ee76=62a 1ee77:62e 1ee79:636 1ee7a:638 1ee7b:63a 1ee7c:66e 1ee7e:6a1
  1ee80-1ee81=627 1ee82:62c 1ee83:62f 1ee84-1ee85=647 1ee86:632 1ee87:62d 1ee88:637 1ee89:64a
  1ee8b-1ee8d=644 1ee8e:633 1ee8f:639 1ee90:641 1ee91:635 1ee92:642 1ee93:631 1ee94:634
  1ee95-1ee96=62a 1ee97:62e 1ee98:630 1ee99:636 1ee9a:638 1ee9b:63a 1eea1:628 1eea2:62c 1eea3:62f
  1eea5:648 1eea6:632 1eea7:62d 1eea8:637 1eea9:64a 1eeab-1eead=644 1eeae:633 1eeaf:639 1eeb0:641
  1eeb1:635 1eeb2:642 1eeb3:631 1eeb4:634 1eeb5-1eeb6=62a 1eeb7:62e 1eeb8:630 1eeb9:636 1eeba:638
  1eebb:63a 1f101:30,2c 1f102:31,2c 1f103:32,2c 1f104:33,2c 1f105:34,2c 1f106:35,2c 1f107:36,2c
  1f108:37,2c 1f109:38,2c 1f10a:39,2c 1f110:28,61,29 1f111:28,62,29 1f112:28,63,29 1f113:28,64,29
  1f114:28,65,29 1f115:28,66,29 1f116:28,67,29 1f117:28,68,29 1f118:28,69,29 1f119:28,6a,29
  1f11a:28,6b,29 1f11b:28,6c,29 1f11c:28,6d,29 1f11d:28,6e,29 1f11e:28,6f,29 1f11f:28,70,29
  1f120:28,71,29 1f121:28,72,29 1f122:28,73,29 1f123:28,74,29 1f124:28,75,29 1f125:28,76,29
  1f126:28,77,29 1f127:28,78,29 1f128:28,79,29 1f129:28,7a,29 1f12a:3014,73,3015 1f12b:63 1f12c:72
  1f12d:63,64 1f12e:77,7a 1f130-1f149=61 1f14a:68,76 1f14b:6d,76 1f14c:73,64 1f14d:73,73
  1f14e:70,70,76 1f14f:77,63 1f16a:6d,63 1f16b:6d,64 1f16c:6d,72 1f190:64,6a 1f200:307b,304b
  1f201:30b3,30b3 1f202:30b5 1f210:624b 1f211:5b57 1f212:53cc 1f213:30c7 1f214:4e8c 1f215:591a
  1f216:89e3 1f217:5929 1f218:4ea4 1f219:6620 1f21a:7121 1f21b:6599 1f21c:524d 1f21d:5f8c
  1f21e:518d 1f21f:65b0 1f220:521d 1f221:7d42 1f222:751f 1f223:8ca9 1f224:58f0 1f225:5439
  1f226:6f14 1f227:6295 1f228:6355 1f229:4e00 1f22a:4e09 1f22b:904a 1f22c:5de6 1f22d:4e2d
  1f22e:53f3 1f22f:6307 1f230:8d70 1f231:6253 1f232:7981 1f233:7a7a 1f234:5408 1f235:6e80
  1f236:6709 1f237:6708 1f238:7533 1f239:5272 1f23a:55b6 1f23b:914d 1f240:3014,672c,3015
  1f241:3014,4e09,3015 1f242:3014,4e8c,3015 1f243:3014,5b89,3015 1f244:3014,70b9,3015
  1f245:3014,6253,3015 1f246:3014,76d7,3015 1f247:3014,52dd,3015 1f248:3014,6557,3015 1f250:5f97
  1f251:53ef 1fbf0-1fbf9=30 2f800:4e3d 2f801:4e38 2f802:4e41 2f803:20122 2f804:4f60 2f805:4fae
  2f806:4fbb 2f807:5002 2f808:507a 2f809:5099 2f80a:50e7 2f80b:50cf 2f80c:349e 2f80d:2063a
  2f80e:514d 2f80f:5154 2f810:5164 2f811:5177 2f812:2051c 2f813:34b9 2f814:5167 2f815:518d
  2f816:2054b 2f817:5197 2f818:51a4 2f819:4ecc 2f81a:51ac 2f81b:51b5 2f81c:291df 2f81d:51f5
  2f81e:5203 2f81f:34df 2f820:523b 2f821:5246 2f822:5272 2f823:5277 2f824:3515 2f825:52c7
  2f826:52c9 2f827:52e4 2f828:52fa 2f829-2f82a=5305 2f82b:5317 2f82c:5349 2f82d:5351 2f82e:535a
  2f82f:5373 2f830:537d 2f831-2f833:537f 2f834:20a2c 2f835:7070 2f836:53ca 2f837:53df 2f838:20b63
  2f839:53eb 2f83a:53f1 2f83b:5406 2f83c:549e 2f83d:5438 2f83e:5448 2f83f:5468 2f840:54a2
  2f841:54f6 2f842:5510 2f843:5553 2f844:5563 2f845-2f846:5584 2f847:5599 2f848:55ab 2f849:55b3
  2f84a:55c2 2f84b:5716 2f84c:5606 2f84d:5717 2f84e:5651 2f84f:5674 2f850:5207 2f851:58ee
  2f852:57ce 2f853:57f4 2f854:580d 2f855:578b 2f856:5832 2f857:5831 2f858:58ac 2f859:214e4
  2f85a:58f2 2f85b:58f7 2f85c:5906 2f85d:591a 2f85e:5922 2f85f:5962 2f860:216a8 2f861:216ea
  2f862:59ec 2f863:5a1b 2f864:5a27 2f865:59d8 2f866:5a66 2f867:36ee 2f868:36fc 2f869:5b08
  2f86a-2f86b:5b3e 2f86c:219c8 2f86d:5bc3 2f86e:5bd8 2f86f:5be7 2f870:5bf3 2f871:21b18 2f872:5bff
  2f873:5c06 2f874:5f53 2f875:5c22 2f876:3781 2f877:5c60 2f878:5c6e 2f879:5cc0 2f87a:5c8d
  2f87b:21de4 2f87c:5d43 2f87d:21de6 2f87e:5d6e 2f87f:5d6b 2f880:5d7c 2f881-2f882=5de1 2f883:382f
  2f884:5dfd 2f885:5e28 2f886:5e3d 2f887:5e69 2f888:3862 2f889:22183 2f88a:387c 2f88b:5eb0
  2f88c:5eb3 2f88d:5eb6 2f88e:5eca 2f88f:2a392 2f890:5efe 2f891-2f892:22331 2f893:8201
  2f894-2f895:5f22 2f896:38c7 2f897:232b8 2f898:261da 2f899:5f62 2f89a:5f6b 2f89b:38e3 2f89c:5f9a
  2f89d:5fcd 2f89e:5fd7 2f89f:5ff9 2f8a0:6081 2f8a1:393a 2f8a2:391c 2f8a3:6094 2f8a4:226d4
  2f8a5:60c7 2f8a6:6148 2f8a7:614c 2f8a8:614e 2f8a9:614c 2f8aa:617a 2f8ab:618e 2f8ac:61b2
  2f8ad:61a4 2f8ae:61af 2f8af:61de 2f8b0:61f2 2f8b1:61f6 2f8b2:6210 2f8b3:621b 2f8b4:625d
  2f8b5:62b1 2f8b6:62d4 2f8b7:6350 2f8b8:22b0c 2f8b9:633d 2f8ba:62fc 2f8bb:6368 2f8bc:6383
  2f8bd:63e4 2f8be:22bf1 2f8bf:6422 2f8c0:63c5 2f8c1:63a9 2f8c2:3a2e 2f8c3:6469 2f8c4:647e
  2f8c5:649d 2f8c6:6477 2f8c7:3a6c 2f8c8:654f 2f8c9:656c 2f8ca:2300a 2f8cb:65e3 2f8cc:66f8
  2f8cd:6649 2f8ce:3b19 2f8cf:6691 2f8d0:3b08 2f8d1:3ae4 2f8d2:5192 2f8d3:5195 2f8d4:6700
  2f8d5:669c 2f8d6:80ad 2f8d7:43d9 2f8d8:6717 2f8d9:671b 2f8da:6721 2f8db:675e 2f8dc:6753
  2f8dd:233c3 2f8de:3b49 2f8df:67fa 2f8e0:6785 2f8e1:6852 2f8e2:6885 2f8e3:2346d 2f8e4:688e
  2f8e5:681f 2f8e6:6914 2f8e7:3b9d 2f8e8:6942 2f8e9:69a3 2f8ea:69ea 2f8eb:6aa8 2f8ec:236a3
  2f8ed:6adb 2f8ee:3c18 2f8ef:6b21 2f8f0:238a7 2f8f1:6b54 2f8f2:3c4e 2f8f3:6b72 2f8f4:6b9f
  2f8f5-2f8f6=6bba 2f8f7:23a8d 2f8f8:21d0b 2f8f9:23afa 2f8fa:6c4e 2f8fb:23cbc 2f8fc:6cbf 2f8fd:6ccd
  2f8fe:6c67 2f8ff:6d16 2f900:6d3e 2f901:6d77 2f902:6d41 2f903:6d69 2f904:6d78 2f905:6d85
  2f906:23d1e 2f907:6d34 2f908:6e2f 2f909:6e6e 2f90a:3d33 2f90b:6ecb 2f90c:6ec7 2f90d:23ed1
  2f90e:6df9 2f90f:6f6e 2f910:23f5e 2f911:23f8e 2f912:6fc6 2f913:7039 2f914:701e 2f915:701b
  2f916:3d96 2f917:704a 2f918:707d 2f919:7077 2f91a:70ad 2f91b:20525 2f91c:7145 2f91d:24263
  2f91e:719c 2f91f:243ab 2f920:7228 2f921:7235 2f922:7250 2f923:24608 2f924:7280 2f925:7295
  2f926:24735 2f927:24814 2f928:737a 2f929:738b 2f92a:3eac 2f92b:73a5 2f92c-2f92d:3eb8 2f92e:7447
  2f92f:745c 2f930:7471 2f931:7485 2f932:74ca 2f933:3f1b 2f934:7524 2f935:24c36 2f936:753e
  2f937:24c92 2f938:7570 2f939:2219f 2f93a:7610 2f93b:24fa1 2f93c:24fb8 2f93d:25044 2f93e:3ffc
  2f93f:4008 2f940:76f4 2f941:250f3 2f942:250f2 2f943:25119 2f944:25133 2f945-2f946=771e 2f947:771f
  2f948:774a 2f949:4039 2f94a:778b 2f94b:4046 2f94c:4096 2f94d:2541d 2f94e:784e 2f94f:788c
  2f950:78cc 2f951:40e3 2f952:25626 2f953:7956 2f954:2569a 2f955:256c5 2f956:798f 2f957:79eb
  2f958:412f 2f959:7a40 2f95a:7a4a 2f95b:7a4f 2f95c:2597c 2f95d-2f95e:25aa7 2f95f:7aee 2f960:4202
  2f961:25bab 2f962:7bc6 2f963:7bc9 2f964:4227 2f965:25c80 2f966:7cd2 2f967:42a0 2f968:7ce8
  2f969:7ce3 2f96a:7d00 2f96b:25f86 2f96c:7d63 2f96d:4301 2f96e:7dc7 2f96f:7e02 2f970:7e45
  2f971:4334 2f972:26228 2f973:26247 2f974:4359 2f975:262d9 2f976:7f7a 2f977:2633e 2f978:7f95
  2f979:7ffa 2f97a:8005 2f97b:264da 2f97c:26523 2f97d:8060 2f97e:265a8 2f97f:8070 2f980:2335f
  2f981:43d5 2f982:80b2 2f983:8103 2f984:440b 2f985:813e 2f986:5ab5 2f987:267a7 2f988:267b5
  2f989:23393 2f98a:2339c 2f98b:8201 2f98c:8204 2f98d:8f9e 2f98e:446b 2f98f:8291 2f990:828b
  2f991:829d 2f992:52b3 2f993:82b1 2f994:82b3 2f995:82bd 2f996:82e6 2f997:26b3c 2f998:82e5
  2f999:831d 2f99a:8363 2f99b:83ad 2f99c:8323 2f99d:83bd 2f99e:83e7 2f99f:8457 2f9a0:8353
  2f9a1:83ca 2f9a2:83cc 2f9a3:83dc 2f9a4:26c36 2f9a5:26d6b 2f9a6:26cd5 2f9a7:452b 2f9a8:84f1
  2f9a9:84f3 2f9aa:8516 2f9ab:273ca 2f9ac:8564 2f9ad:26f2c 2f9ae:455d 2f9af:4561 2f9b0:26fb1
  2f9b1:270d2 2f9b2:456b 2f9b3:8650 2f9b4:865c 2f9b5:8667 2f9b6:8669 2f9b7:86a9 2f9b8:8688
  2f9b9:870e 2f9ba:86e2 2f9bb:8779 2f9bc:8728 2f9bd:876b 2f9be:8786 2f9bf:45d7 2f9c0:87e1
  2f9c1:8801 2f9c2:45f9 2f9c3:8860 2f9c4:8863 2f9c5:27667 2f9c6:88d7 2f9c7:88de 2f9c8:4635
  2f9c9:88fa 2f9ca:34bb 2f9cb:278ae 2f9cc:27966 2f9cd:46be 2f9ce:46c7 2f9cf:8aa0 2f9d0:8aed
  2f9d1:8b8a 2f9d2:8c55 2f9d3:27ca8 2f9d4:8cab 2f9d5:8cc1 2f9d6:8d1b 2f9d7:8d77 2f9d8:27f2f
  2f9d9:20804 2f9da:8dcb 2f9db:8dbc 2f9dc:8df0 2f9dd:208de 2f9de:8ed4 2f9df:8f38 2f9e0:285d2
  2f9e1:285ed 2f9e2:9094 2f9e3:90f1 2f9e4:9111 2f9e5:2872e 2f9e6:911b 2f9e7:9238 2f9e8-2f9e9=92d7
  2f9ea:927c 2f9eb:93f9 2f9ec:9415 2f9ed:28bfa 2f9ee:958b 2f9ef:4995 2f9f0:95b7 2f9f1:28d77
  2f9f2:49e6 2f9f3:96c3 2f9f4:5db2 2f9f5:9723 2f9f6:29145 2f9f7:2921a 2f9f8:4a6e 2f9f9:4a76
  2f9fa:97e0 2f9fb:2940a 2f9fc:4ab2 2f9fd:29496 2f9fe-2f9ff:980b 2fa00:9829 2fa01:295b6 2fa02:98e2
  2fa03:4b33 2fa04:9929 2fa05:99a7 2fa06:99c2 2fa07:99fe 2fa08:4bce 2fa09:29b30 2fa0a:9b12
  2fa0b:9c40 2fa0c:9cfd 2fa0d:4cce 2fa0e:4ced 2fa0f:9d67 2fa10:2a0ce 2fa11:4cf8 2fa12:2a105
  2fa13:2a20e 2fa14:2a291 2fa15:9ebb 2fa16:4d56 2fa17:9ef9 2fa18:9efe 2fa19:9f05 2fa1a:9f0f
  2fa1b:9f16 2fa1c:9f3b 2fa1d:2a600 e0100-e01ef:"

def unnamedTable : CodeTable := CodeTable.ofText
  "2024-2026 2488-249b 2ff0-2fff 31ef 33c2 33c7 33d8 fe12 fe19 fe30 fe52 fffc-fffd 1f100"

def isJoiner (c : Char) : Bool := c == '\u200C' || c == '\u200D'

def target? (row : CodeRange) (c : Char) : Option (List Char) :=
  let shifted := [Char.ofNat (row.values.headD 0 + (c.toNat - row.low))]
  match row.mark with
  | some '=' => some shifted
  | some '/' => if (c.toNat - row.low) % 2 = 0 then some shifted else none
  | _ => some (row.values.map Char.ofNat)

def fold? (c : Char) : Option (List Char) :=
  if c.toNat < 0x80 then some [c.toLower]
  else match (table.row? c).bind (target? · c) with
    | some cs => some cs
    | none =>
      if Text.isHidden c && !isJoiner c || unnamedTable.has c then none else some [c]

def isFolded (c : Char) : Bool := fold? c == some [c]

end PacedCalls.Http.NameFolding
