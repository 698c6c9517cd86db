/-!
# Table of the host mapping

One word for each stretch of characters from U+0080 on: `v` valid, `x` refused, `i` left out, each
with the length of the stretch; `m` one character and what it becomes; `c` a stretch that becomes
one character; `s` a stretch that is shifted; `a` a stretch in which every other character is
shifted. Numbers are hexadecimal.
-/

namespace Reroute.Unicode

/-- The host mapping from U+0080 on. -/
def hostMappingText : String := "
  x20 m20 v7 m20.308 v1 m61 v2 i1 v1 m20.304 v2 s2.32 m20.301 m3bc v2 m20.327 m31 m6f v1
  m31.2044.34 m31.2044.32 m33.2044.34 v1 s17.e0 v1 s7.f8 v21 a2f.101 v1 m69.307 v1 m69.6a m69.6a
  a3.135 v2 a5.13a v1 m6c.b7 m6c.b7 a7.142 v1 m2bc.6e a2d.14b v1 mff a5.17a v1 m73 v1 m253
  a3.183 v1 m254 m188 v1 s2.256 m18c v2 m1dd m259 m25b m192 v1 m260 m263 v1 m269 m268 m199 v3
  m26f m272 v1 m275 a5.1a1 v1 m280 m1a8 v1 m283 v2 m1ad v1 m288 m1b0 v1 s2.28a a3.1b4 v1 m292
  m1b9 v3 m1bd v7 m64.17e m64.17e m64.17e m6c.6a m6c.6a m6c.6a m6e.6a m6e.6a m6e.6a af.1ce v2
  a11.1df v2 m64.7a m64.7a m64.7a m1f5 v1 m195 m1bf a27.1f9 v1 m19e v1 a11.223 v7 m2c65 m23c v1
  m19a m2c66 v2 m242 v1 m180 m289 m28c a9.247 v61 m68 m266 m6a m72 m279 m27b m281 m77 m79 v1f
  m20.306 m20.307 m20.30a m20.328 m20.303 m20.30b v2 m263 m6c m73 m78 m295 v5b s2.300 v1 m313
  m308.301 m3b9 v9 i1 v20 a3.371 v1 m2b9 v1 m377 v1 x2 m20.3b9 v3 m3b m3f3 x4 m20.301
  m20.308.301 m3ac mb7 s3.3ad x1 m3cc x1 s2.3cd v1 s11.3b1 x1 s9.3c3 v23 m3d7 m3b2 m3b8 m3c5
  m3cd m3cb m3c6 m3c0 v1 a17.3d9 v1 m3ba m3c1 m3c3 v1 m3b8 m3b5 v1 m3f8 v1 m3c3 m3fb v2 s3.37b
  s10.450 s20.430 v30 a21.461 v9 a35.48b v1 m4cf ad.4c2 v2 a5f.4d1 v1 x1 s26.561 x2 v2e m565.582
  v3 x2 v3 x1 v37 x8 v1b x4 v6 x11 v16 x1 v58 m627.674 m648.674 m6c7.674 m64a.674 v64 x1 v30 x2
  v3b x2 v65 xe v3b x2 v31 x2 vf x1 v1c x2 v1 x1 vb x5 v20 x7 v4b x1 v75 m915.93c m916.93c
  m917.93c m91c.93c m921.93c m922.93c m92b.93c m92f.93c v24 x1 v8 x2 v2 x2 v16 x1 v7 x1 v1 x3 v4
  x2 v9 x2 v2 x2 v4 x8 v1 x4 m9a1.9bc m9a2.9bc x1 m9af.9bc v4 x2 v19 x2 v3 x1 v6 x4 v2 x2 v16 x1
  v7 x1 v1 ma32.a3c x1 v1 ma38.a3c x1 v2 x2 v1 x1 v5 x4 v2 x2 v3 x3 v1 x7 ma16.a3c ma17.a3c
  ma1c.a3c v1 x1 ma2b.a3c x7 v11 xa v3 x1 v9 x1 v3 x1 v16 x1 v7 x1 v2 x1 v5 x2 va x1 v3 x1 v3 x2
  v1 xf v4 x2 vc x7 v7 x1 v3 x1 v8 x2 v2 x2 v16 x1 v7 x1 v2 x1 v5 x2 v9 x2 v2 x2 v3 x7 v3 x4
  mb21.b3c mb22.b3c x1 v5 x2 v12 xa v2 x1 v6 x3 v3 x1 v4 x3 v2 x1 v1 x1 v2 x3 v2 x3 v3 x3 vc x4
  v5 x3 v3 x1 v4 x2 v1 x6 v1 xe v15 x5 vd x1 v3 x1 v17 x1 v10 x2 v9 x1 v3 x1 v4 x7 v2 x1 v3 x1
  v2 x2 v4 x2 va x7 v16 x1 v3 x1 v17 x1 va x1 v5 x2 v9 x1 v3 x1 v4 x7 v2 x5 v3 x1 v4 x2 va x1 v3
  xc vd x1 v3 x1 v33 x1 v3 x1 v6 x4 v10 x2 v1a x1 v3 x1 v12 x3 v18 x1 v9 x1 v1 x2 v7 x3 v1 x4 v6
  x1 v1 x1 v8 x6 va x2 v3 xc v32 me4d.e32 v7 x4 v1d x25 v2 x1 v1 x1 v5 x1 v18 x1 v1 x1 vc
  mecd.eb2 va x2 v5 x1 v1 x1 v7 x1 va x2 meab.e99 meab.ea1 v2 x20 vc mf0b v36 mf42.fb7 v4 x1 v4
  mf4c.fb7 v4 mf51.fb7 v4 mf56.fb7 v4 mf5b.fb7 vc mf40.fb5 v3 x4 v2 mf71.f72 v1 mf71.f74
  mfb2.f80 mfb2.f71.f80 mfb3.f80 mfb3.f71.f80 v7 mf71.f80 v11 mf92.fb7 v4 x1 v4 mf9c.fb7 v4
  mfa1.fb7 v4 mfa6.fb7 v4 mfab.fb7 vc mf90.fb5 v3 x1 vf x1 vd x25 va0 s26.2d00 x1 m2d27 x5 m2d2d
  x2 v2c m10dc v62 i2 ve8 x1 v4 x2 v7 x1 v1 x1 v4 x2 v29 x1 v4 x2 v21 x1 v4 x2 v7 x1 v1 x1 v4 x2
  vf x1 v39 x1 v4 x2 v43 x2 v20 x3 v1a x6 v56 x2 s6.13f0 x2 v280 x1 v1c x3 v59 x7 v16 x9 v18 x9
  v14 xc vd x1 v3 x1 v2 xc v34 i2 v28 x2 va x6 va x6 vb i5 va x6 v59 x7 v2b x5 v46 xa v1f x1 vc
  x4 vc x4 v1 x3 v2a x2 v5 xb v2c x4 v1a x6 vb x3 v3e x2 v41 x1 v1d x2 vb x6 va x6 ve x2 v2e x2
  vc x14 v4d x1 va6 x8 v3c x3 vf x3 v33 m432 m434 m43e s2.441 m442 m44a m463 ma64b m1c8a v1 x5
  s2b.10d0 x2 s3.10fd v8 x8 v2b x5 v2c m61 me6 a3.62 m65 m1dd s8.67 v1 m6f m223 m70 m72 s2.74
  m77 m61 s2.250 m1d02 m62 s2.64 m259 s2.25b m67 v1 m6b m6d m14b m6f m254 s2.1d16 m70 s2.74
  m1d1d m26f m76 m1d25 s3.3b2 s2.3c6 m69 m72 s2.75 s2.3b2 m3c1 s2.3c6 vd m43d v22 m252 m63 m255
  mf0 m25c m66 m25f m261 m265 s3.268 m1d7b m29d m26d m1d85 m29f m271 m270 s4.272 m278 s2.282
  m1ab s2.289 m1d1c s2.28b m7a s3.290 m3b8 v40 a95.1e01 v5 m61.2be m1e61 v2 mdf v1 a5f.1ea1 v9
  s8.1f00 v6 x2 s6.1f10 x2 v8 s8.1f20 v8 s8.1f30 v6 x2 s6.1f40 x2 v8 x1 m1f51 x1 m1f53 x1 m1f55
  x1 m1f57 v8 s8.1f60 v1 m3ac v1 m3ad v1 m3ae v1 m3af v1 m3cc v1 m3cd v1 m3ce x2 m1f00.3b9
  m1f01.3b9 m1f02.3b9 m1f03.3b9 m1f04.3b9 m1f05.3b9 m1f06.3b9 m1f07.3b9 m1f00.3b9 m1f01.3b9
  m1f02.3b9 m1f03.3b9 m1f04.3b9 m1f05.3b9 m1f06.3b9 m1f07.3b9 m1f20.3b9 m1f21.3b9 m1f22.3b9
  m1f23.3b9 m1f24.3b9 m1f25.3b9 m1f26.3b9 m1f27.3b9 m1f20.3b9 m1f21.3b9 m1f22.3b9 m1f23.3b9
  m1f24.3b9 m1f25.3b9 m1f26.3b9 m1f27.3b9 m1f60.3b9 m1f61.3b9 m1f62.3b9 m1f63.3b9 m1f64.3b9
  m1f65.3b9 m1f66.3b9 m1f67.3b9 m1f60.3b9 m1f61.3b9 m1f62.3b9 m1f63.3b9 m1f64.3b9 m1f65.3b9
  m1f66.3b9 m1f67.3b9 v2 m1f70.3b9 m3b1.3b9 m3ac.3b9 x1 v1 m1fb6.3b9 s2.1fb0 m1f70 m3ac m3b1.3b9
  m20.313 m3b9 m20.313 m20.342 m20.308.342 m1f74.3b9 m3b7.3b9 m3ae.3b9 x1 v1 m1fc6.3b9 m1f72
  m3ad m1f74 m3ae m3b7.3b9 m20.313.300 m20.313.301 m20.313.342 v3 m390 x2 v2 s2.1fd0 m1f76 m3af
  x1 m20.314.300 m20.314.301 m20.314.342 v3 m3b0 v4 s2.1fe0 m1f7a m3cd m1fe5 m20.308.300
  m20.308.301 m60 x2 m1f7c.3b9 m3c9.3b9 m3ce.3b9 x1 v1 m1ff6.3b9 m1f78 m3cc m1f7c m3ce m3c9.3b9
  m20.301 m20.314 x1 cb.20 i1 v2 x2 v1 m2010 v5 m20.333 vc x3 v1 x7 m20 v3 m2032.2032
  m2032.2032.2032 v1 m2035.2035 m2035.2035.2035 v4 m21.21 v1 m20.305 v8 m3f.3f m3f.21 m21.3f vd
  m2032.2032.2032.2032 v7 m20 i5 x5 i6 m30 m69 x2 s6.34 m2b m2212 m3d s2.28 m6e sa.30 m2b m2212
  m3d s2.28 x1 m61 m65 m6f m78 m259 m68 s4.6b m70 s2.73 x3 v8 m72.73 v19 xe v21 xf m61.2f.63
  m61.2f.73 m63 mb0.63 v1 m63.2f.6f m63.2f.75 m25b v1 mb0.66 s2.67 c3.68 m127 c2.69 c2.6c v1 m6e
  m6e.6f v2 s3.70 c2.72 v2 m73.6d m74.65.6c m74.6d v1 m7a v1 m3c9 v1 m7a v1 m6b me5 s2.62 v1
  c2.65 m66 m214e m6d m6f s4.5d0 m69 v1 m66.61.78 m3c0 c2.3b3 m3c0 m2211 v4 c2.64 m65 s2.69 v6
  m31.2044.37 m31.2044.39 m31.2044.31.30 m31.2044.33 m32.2044.33 m31.2044.35 m32.2044.35
  m33.2044.35 m34.2044.35 m31.2044.36 m35.2044.36 m31.2044.38 m33.2044.38 m35.2044.38
  m37.2044.38 m31.2044 m69 m69.69 m69.69.69 m69.76 m76 m76.69 m76.69.69 m76.69.69.69 m69.78 m78
  m78.69 m78.69.69 m6c s2.63 m6d m69 m69.69 m69.69.69 m69.76 m76 m76.69 m76.69.69 m76.69.69.69
  m69.78 m78 m78.69 m78.69.69 m6c s2.63 m6d v3 m2184 v5 m30.2044.33 v2 x4 v9c m222b.222b
  m222b.222b.222b v1 m222e.222e m222e.222e.222e vf8 s2.3008 vff x16 vb x15 s9.31 m31.30 m31.31
  m31.32 m31.33 m31.34 m31.35 m31.36 m31.37 m31.38 m31.39 m32.30 m28.31.29 m28.32.29 m28.33.29
  m28.34.29 m28.35.29 m28.36.29 m28.37.29 m28.38.29 m28.39.29 m28.31.30.29 m28.31.31.29
  m28.31.32.29 m28.31.33.29 m28.31.34.29 m28.31.35.29 m28.31.36.29 m28.31.37.29 m28.31.38.29
  m28.31.39.29 m28.32.30.29 x14 m28.61.29 m28.62.29 m28.63.29 m28.64.29 m28.65.29 m28.66.29
  m28.67.29 m28.68.29 m28.69.29 m28.6a.29 m28.6b.29 m28.6c.29 m28.6d.29 m28.6e.29 m28.6f.29
  m28.70.29 m28.71.29 m28.72.29 m28.73.29 m28.74.29 m28.75.29 m28.76.29 m28.77.29 m28.78.29
  m28.79.29 m28.7a.29 s1a.61 s1a.61 m30 v521 m222b.222b.222b.222b v67 m3a.3a.3d m3d.3d m3d.3d.3d
  v65 m2add.338 v97 x2 v8a s30.2c30 v30 m2c61 v1 m26b m1d7d m27d v2 a5.2c68 v1 m251 m271 m250
  m252 v1 m2c73 v2 m2c76 v6 m6a m76 s2.23f a63.2c81 v8 a3.2cec v4 m2cf3 v1 x5 v2d x1 v1 x5 v1 x2
  v38 x7 m2d61 v1 xe v18 x9 v7 x1 v7 x1 v7 x1 v7 x1 v7 x1 v7 x1 v7 x1 v7 x1 v7e x22 v1a x1 v4
  m6bcd v53 m9f9f xc m4e00 m4e28 m4e36 m4e3f m4e59 m4e85 m4e8c m4ea0 m4eba m513f m5165 m516b
  m5182 m5196 m51ab m51e0 m51f5 m5200 m529b m52f9 m5315 m531a m5338 m5341 m535c m5369 m5382
  m53b6 m53c8 m53e3 m56d7 m571f m58eb m5902 m590a m5915 m5927 m5973 m5b50 m5b80 m5bf8 m5c0f
  m5c22 m5c38 m5c6e m5c71 m5ddb m5de5 m5df1 m5dfe m5e72 m5e7a m5e7f m5ef4 m5efe m5f0b m5f13
  m5f50 m5f61 m5f73 m5fc3 m6208 m6236 m624b m652f m6534 m6587 m6597 m65a4 m65b9 m65e0 m65e5
  m66f0 m6708 m6728 m6b20 m6b62 m6b79 m6bb3 m6bcb m6bd4 m6bdb m6c0f m6c14 m6c34 m706b m722a
  m7236 m723b m723f m7247 m7259 m725b m72ac m7384 m7389 m74dc m74e6 m7518 m751f m7528 m7530
  m758b m7592 m7676 m767d m76ae m76bf m76ee m77db m77e2 m77f3 m793a m79b8 m79be m7a74 m7acb
  m7af9 m7c73 m7cf8 m7f36 m7f51 m7f8a m7fbd m8001 m800c m8012 m8033 m807f m8089 m81e3 m81ea
  m81f3 m81fc m820c m821b m821f m826e m8272 m8278 m864d m866b m8840 m884c m8863 m897e m898b
  m89d2 m8a00 m8c37 m8c46 m8c55 m8c78 m8c9d m8d64 m8d70 m8db3 m8eab m8eca m8f9b m8fb0 m8fb5
  m9091 m9149 m91c6 m91cc m91d1 m9577 m9580 m961c m96b6 m96b9 m96e8 m9751 m975e m9762 m9769
  m97cb m97ed m97f3 m9801 m98a8 m98db m98df m9996 m9999 m99ac m9aa8 m9ad8 m9adf m9b25 m9b2f
  m9b32 m9b3c m9b5a m9ce5 m9e75 m9e7f m9ea5 m9ebb m9ec3 m9ecd m9ed1 m9ef9 m9efd m9f0e m9f13
  m9f20 m9f3b m9f4a m9f52 m9f8d m9f9c m9fa0 x2a m20 v1 m2e v33 m3012 v1 m5341 s2.5344 v5 x1 v56
  x2 v2 m20.3099 m20.309a v2 m3088.308a v5f m30b3.30c8 x5 v2b x1 s2.1100 m11aa m1102 s2.11ac
  s3.1103 s6.11b0 m111a s3.1106 m1121 sa.1109 s15.1161 i1 s2.1114 s2.11c7 m11cc m11ce m11d3
  m11d7 m11d9 m111c m11dd m11df s2.111d m1120 s2.1122 m1127 m1129 s5.112b m1132 m1136 m1140
  m1147 m114c s2.11f1 s3.1157 s2.1184 m1188 s2.1191 m1194 m119e m11a1 x1 v2 m4e00 m4e8c m4e09
  m56db m4e0a m4e2d m4e0b m7532 m4e59 m4e19 m4e01 m5929 m5730 m4eba v46 xa v10 m28.1100.29
  m28.1102.29 m28.1103.29 m28.1105.29 m28.1106.29 m28.1107.29 m28.1109.29 m28.110b.29
  m28.110c.29 m28.110e.29 m28.110f.29 m28.1110.29 m28.1111.29 m28.1112.29 m28.ac00.29
  m28.b098.29 m28.b2e4.29 m28.b77c.29 m28.b9c8.29 m28.bc14.29 m28.c0ac.29 m28.c544.29
  m28.c790.29 m28.cc28.29 m28.ce74.29 m28.d0c0.29 m28.d30c.29 m28.d558.29 m28.c8fc.29
  m28.c624.c804.29 m28.c624.d6c4.29 x1 m28.4e00.29 m28.4e8c.29 m28.4e09.29 m28.56db.29
  m28.4e94.29 m28.516d.29 m28.4e03.29 m28.516b.29 m28.4e5d.29 m28.5341.29 m28.6708.29
  m28.706b.29 m28.6c34.29 m28.6728.29 m28.91d1.29 m28.571f.29 m28.65e5.29 m28.682a.29
  m28.6709.29 m28.793e.29 m28.540d.29 m28.7279.29 m28.8ca1.29 m28.795d.29 m28.52b4.29
  m28.4ee3.29 m28.547c.29 m28.5b66.29 m28.76e3.29 m28.4f01.29 m28.8cc7.29 m28.5354.29
  m28.796d.29 m28.4f11.29 m28.81ea.29 m28.81f3.29 m554f m5e7c m6587 m7b8f v8 m70.74.65 m32.31
  m32.32 m32.33 m32.34 m32.35 m32.36 m32.37 m32.38 m32.39 m33.30 m33.31 m33.32 m33.33 m33.34
  m33.35 m1100 s2.1102 s3.1105 m1109 s2.110b s5.110e mac00 mb098 mb2e4 mb77c mb9c8 mbc14 mc0ac
  mc544 mc790 mcc28 mce74 md0c0 md30c md558 mcc38.ace0 mc8fc.c758 mc6b0 v1 m4e00 m4e8c m4e09
  m56db m4e94 m516d m4e03 m516b m4e5d m5341 m6708 m706b m6c34 m6728 m91d1 m571f m65e5 m682a
  m6709 m793e m540d m7279 m8ca1 m795d m52b4 m79d8 m7537 m5973 m9069 m512a m5370 m6ce8 m9805
  m4f11 m5199 m6b63 m4e0a m4e2d m4e0b m5de6 m53f3 m533b m5b97 m5b66 m76e3 m4f01 m8cc7 m5354
  m591c m33.36 m33.37 m33.38 m33.39 m34.30 m34.31 m34.32 m34.33 m34.34 m34.35 m34.36 m34.37
  m34.38 m34.39 m35.30 m31.6708 m32.6708 m33.6708 m34.6708 m35.6708 m36.6708 m37.6708 m38.6708
  m39.6708 m31.30.6708 m31.31.6708 m31.32.6708 m68.67 m65.72.67 m65.76 m6c.74.64 m30a2 m30a4
  m30a6 m30a8 s2.30aa m30ad m30af m30b1 m30b3 m30b5 m30b7 m30b9 m30bb m30bd m30bf m30c1 m30c4
  m30c6 m30c8 s6.30ca m30d2 m30d5 m30d8 m30db s5.30de m30e4 m30e6 s6.30e8 s4.30ef m4ee4.548c
  m30a2.30d1.30fc.30c8 m30a2.30eb.30d5.30a1 m30a2.30f3.30da.30a2 m30a2.30fc.30eb
  m30a4.30cb.30f3.30b0 m30a4.30f3.30c1 m30a6.30a9.30f3 m30a8.30b9.30af.30fc.30c9
  m30a8.30fc.30ab.30fc m30aa.30f3.30b9 m30aa.30fc.30e0 m30ab.30a4.30ea m30ab.30e9.30c3.30c8
  m30ab.30ed.30ea.30fc m30ac.30ed.30f3 m30ac.30f3.30de m30ae.30ac m30ae.30cb.30fc
  m30ad.30e5.30ea.30fc m30ae.30eb.30c0.30fc m30ad.30ed m30ad.30ed.30b0.30e9.30e0
  m30ad.30ed.30e1.30fc.30c8.30eb m30ad.30ed.30ef.30c3.30c8 m30b0.30e9.30e0
  m30b0.30e9.30e0.30c8.30f3 m30af.30eb.30bc.30a4.30ed m30af.30ed.30fc.30cd m30b1.30fc.30b9
  m30b3.30eb.30ca m30b3.30fc.30dd m30b5.30a4.30af.30eb m30b5.30f3.30c1.30fc.30e0
  m30b7.30ea.30f3.30b0 m30bb.30f3.30c1 m30bb.30f3.30c8 m30c0.30fc.30b9 m30c7.30b7 m30c9.30eb
  m30c8.30f3 m30ca.30ce m30ce.30c3.30c8 m30cf.30a4.30c4 m30d1.30fc.30bb.30f3.30c8
  m30d1.30fc.30c4 m30d0.30fc.30ec.30eb m30d4.30a2.30b9.30c8.30eb m30d4.30af.30eb m30d4.30b3
  m30d3.30eb m30d5.30a1.30e9.30c3.30c9 m30d5.30a3.30fc.30c8 m30d6.30c3.30b7.30a7.30eb
  m30d5.30e9.30f3 m30d8.30af.30bf.30fc.30eb m30da.30bd m30da.30cb.30d2 m30d8.30eb.30c4
  m30da.30f3.30b9 m30da.30fc.30b8 m30d9.30fc.30bf m30dd.30a4.30f3.30c8 m30dc.30eb.30c8
  m30db.30f3 m30dd.30f3.30c9 m30db.30fc.30eb m30db.30fc.30f3 m30de.30a4.30af.30ed
  m30de.30a4.30eb m30de.30c3.30cf m30de.30eb.30af m30de.30f3.30b7.30e7.30f3 m30df.30af.30ed.30f3
  m30df.30ea m30df.30ea.30d0.30fc.30eb m30e1.30ac m30e1.30ac.30c8.30f3 m30e1.30fc.30c8.30eb
  m30e4.30fc.30c9 m30e4.30fc.30eb m30e6.30a2.30f3 m30ea.30c3.30c8.30eb m30ea.30e9
  m30eb.30d4.30fc m30eb.30fc.30d6.30eb m30ec.30e0 m30ec.30f3.30c8.30b2.30f3 m30ef.30c3.30c8
  m30.70b9 m31.70b9 m32.70b9 m33.70b9 m34.70b9 m35.70b9 m36.70b9 m37.70b9 m38.70b9 m39.70b9
  m31.30.70b9 m31.31.70b9 m31.32.70b9 m31.33.70b9 m31.34.70b9 m31.35.70b9 m31.36.70b9
  m31.37.70b9 m31.38.70b9 m31.39.70b9 m32.30.70b9 m32.31.70b9 m32.32.70b9 m32.33.70b9
  m32.34.70b9 m68.70.61 m64.61 m61.75 m62.61.72 m6f.76 m70.63 m64.6d m64.6d.32 m64.6d.33 m69.75
  m5e73.6210 m662d.548c m5927.6b63 m660e.6cbb m682a.5f0f.4f1a.793e m70.61 m6e.61 m3bc.61 m6d.61
  m6b.61 m6b.62 m6d.62 m67.62 m63.61.6c m6b.63.61.6c m70.66 m6e.66 m3bc.66 m3bc.67 m6d.67 m6b.67
  m68.7a m6b.68.7a m6d.68.7a m67.68.7a m74.68.7a m3bc.6c m6d.6c m64.6c m6b.6c m66.6d m6e.6d
  m3bc.6d m6d.6d m63.6d m6b.6d m6d.6d.32 m63.6d.32 m6d.32 m6b.6d.32 m6d.6d.33 m63.6d.33 m6d.33
  m6b.6d.33 m6d.2215.73 m6d.2215.73.32 m70.61 m6b.70.61 m6d.70.61 m67.70.61 m72.61.64
  m72.61.64.2215.73 m72.61.64.2215.73.32 m70.73 m6e.73 m3bc.73 m6d.73 m70.76 m6e.76 m3bc.76
  m6d.76 m6b.76 m6d.76 m70.77 m6e.77 m3bc.77 m6d.77 m6b.77 m6d.77 m6b.3c9 m6d.3c9 x1 m62.71
  m63.63 m63.64 m63.2215.6b.67 x1 m64.62 m67.79 m68.61 m68.70 m69.6e m6b.6b m6b.6d m6b.74 m6c.6d
  m6c.6e m6c.6f.67 m6c.78 m6d.62 m6d.69.6c m6d.6f.6c m70.68 x1 m70.70.6d m70.72 m73.72 m73.76
  m77.62 m76.2215.6d m61.2215.6d m31.65e5 m32.65e5 m33.65e5 m34.65e5 m35.65e5 m36.65e5 m37.65e5
  m38.65e5 m39.65e5 m31.30.65e5 m31.31.65e5 m31.32.65e5 m31.33.65e5 m31.34.65e5 m31.35.65e5
  m31.36.65e5 m31.37.65e5 m31.38.65e5 m31.39.65e5 m32.30.65e5 m32.31.65e5 m32.32.65e5
  m32.33.65e5 m32.34.65e5 m32.35.65e5 m32.36.65e5 m32.37.65e5 m32.38.65e5 m32.39.65e5
  m33.30.65e5 m33.31.65e5 m67.61.6c v708d x3 v37 x9 v15c x14 a2d.a641 v13 a1b.a681 v1 m44a m44c
  v5a x8 v22 ad.a723 v3 a3d.a733 v1 ma76f v8 a3.a77a v1 m1d79 a9.a77f v4 ma78c v1 m265 v2
  a3.a791 v3 a13.a797 v1 m266 m25c m261 m26c m26a v1 m29e m287 m29d mab53 af.a7b5 v1 ma794 m282
  m1d8e a3.a7c8 v1 m264 af.a7cd v1 m19b x14 m73 m63 m66 m71 ma7f6 v2 m127 m153 v33 x3 va x6 v38
  x8 v46 x8 vc x6 v74 xb v1e x3 v4e x1 vb x4 v21 x1 v37 x9 ve x2 va x2 v67 x18 v1c xa v6 x2 v6
  x2 v6 x9 v7 x1 v7 x1 v2c ma727 mab37 m26b mab52 v9 m28d v2 x4 s50.13a0 v2e x2 va x6 v2ba4 xc
  v17 x4 v31 x2104 m8c48 m66f4 m8eca m8cc8 m6ed1 m4e32 m53e5 c2.9f9c m5951 m91d1 m5587 m5948
  m61f6 m7669 m7f85 m863f m87ba m88f8 m908f m6a02 m6d1b m70d9 m73de m843d m916a m99f1 m4e82
  m5375 m6b04 m721b m862d m9e1e m5d50 m6feb m85cd m8964 m62c9 m81d8 m881f m5eca m6717 m6d6a
  m72fc m90ce m4f86 m51b7 m52de m64c4 m6ad3 m7210 m76e7 m8001 m8606 m865c m8def m9732 m9b6f
  m9dfa m788c m797f m7da0 m83c9 m9304 m9e7f m8ad6 m58df m5f04 m7c60 m807e m7262 m78ca m8cc2
  m96f7 m58d8 m5c62 m6a13 m6dda m6f0f m7d2f m7e37 m964b m52d2 m808b m51dc m51cc m7a1c m7dbe
  m83f1 m9675 m8b80 m62cf m6a02 m8afe m4e39 m5be7 m6012 m7387 m7570 m5317 m78fb m4fbf m5fa9
  m4e0d m6ccc m6578 m7d22 m53c3 m585e m7701 m8449 m8aaa m6bba m8fb0 m6c88 m62fe m82e5 m63a0
  m7565 m4eae m5169 m51c9 m6881 m7ce7 m826f m8ad2 m91cf m52f5 m5442 m5973 m5eec m65c5 m6ffe
  m792a m95ad m9a6a m9e97 m9ece m529b m66c6 m6b77 m8f62 m5e74 m6190 m6200 m649a m6f23 m7149
  m7489 m79ca m7df4 m806f m8f26 m84ee m9023 m934a m5217 m52a3 m54bd m70c8 m88c2 m8aaa m5ec9
  m5ff5 m637b m6bae m7c3e m7375 m4ee4 m56f9 m5be7 m5dba m601c m73b2 m7469 m7f9a m8046 m9234
  m96f6 m9748 m9818 m4f8b m79ae m91b4 m96b8 m60e1 m4e86 m50da m5bee m5c3f m6599 m6a02 m71ce
  m7642 m84fc m907c m9f8d m6688 m962e m5289 m677b m67f3 m6d41 m6e9c m7409 m7559 m786b m7d10
  m985e m516d m622e m9678 m502b m5d19 m6dea m8f2a m5f8b m6144 m6817 m7387 m9686 m5229 m540f
  m5c65 m6613 m674e m68a8 m6ce5 m7406 m75e2 m7f79 m88cf m88e1 m91cc m96e2 m533f m6eba m541d
  m71d0 m7498 m85fa m96a3 m9c57 m9e9f m6797 m6dcb m81e8 m7acb m7b20 m7c92 m72c0 m7099 m8b58
  m4ec0 m8336 m523a m5207 m5ea6 m62d3 m7cd6 m5b85 m6d1e m66b4 m8f3b m884c m964d m898b m5ed3
  m5140 m55c0 v2 m585a v1 m6674 v2 m51de m732a m76ca m793c m795e m7965 m798f m9756 m7cbe m7fbd
  v1 m8612 v1 m8af8 v2 m9038 m90fd v3 m98ef m98fc m9928 m9db4 m90de m96b7 m4fae m50e7 m514d
  m52c9 m52e4 m5351 m559d m5606 m5668 m5840 m58a8 m5c64 m5c6e m6094 m6168 m618e m61f2 m654f
  m65e2 m6691 m6885 m6d77 m6e1a m6f22 m716e m722b m7422 m7891 m793e m7949 m7948 m7950 m7956
  m795d s2.798d m7a40 m7a81 m7bc0 m7df4 m7e09 m7e41 m7f72 m8005 m81ed c2.8279 m8457 m8910 m8996
  m8b01 m8b39 m8cd3 m8d08 m8fb6 m9038 m96e3 m97ff m983b m6075 m242ee m8218 x2 m4e26 m51b5 m5168
  m4f80 m5145 m5180 m52c7 m52fa m559d m5555 m5599 m55e2 m585a m58b3 m5944 m5954 m5a62 m5b28
  m5ed2 m5ed9 m5f69 m5fad m60d8 m614e m6108 m618e m6160 m61f2 m6234 m63c4 m641c m6452 m6556
  m6674 m6717 m671b m6756 m6b79 m6bba m6d41 m6edb m6ecb m6f22 m701e m716e m77a7 m7235 m72af
  m732a m7471 m7506 m753b m761d m761f m76ca m76db m76f4 m774a m7740 m78cc m7ab1 m7bc0 m7c7b
  m7d5b m7df4 m7f3e m8005 m8352 m83ef m8779 m8941 m8986 m8996 m8abf m8af8 m8acb m8b01 m8afe
  m8aed m8b39 m8b8a m8d08 m8f38 m9072 m9199 m9276 m967c m96e3 m9756 m97db m97ff m980b m983b
  m9b12 m9f9c m2284a m22844 m233d5 m3b9d m4018 m4039 m25249 m25cd0 m27ed3 m9f43 m9f8e x26 m66.66
  m66.69 m66.6c m66.66.69 m66.66.6c m73.74 m73.74 xc m574.576 m574.565 m574.56b m57e.576
  m574.56d x5 m5d9.5b4 v1 m5f2.5b7 m5e2 m5d0 s2.5d3 s3.5db m5e8 m5ea m2b m5e9.5c1 m5e9.5c2
  m5e9.5bc.5c1 m5e9.5bc.5c2 m5d0.5b7 m5d0.5b8 m5d0.5bc m5d1.5bc m5d2.5bc m5d3.5bc m5d4.5bc
  m5d5.5bc m5d6.5bc x1 m5d8.5bc m5d9.5bc m5da.5bc m5db.5bc m5dc.5bc x1 m5de.5bc x1 m5e0.5bc
  m5e1.5bc x1 m5e3.5bc m5e4.5bc x1 m5e6.5bc m5e7.5bc m5e8.5bc m5e9.5bc m5ea.5bc m5d5.5b9
  m5d1.5bf m5db.5bf m5e4.5bf m5d0.5dc c2.671 c4.67b c4.67e c4.680 c4.67a c4.67f c4.679 c4.6a4
  c4.6a6 c4.684 c4.683 c4.686 c4.687 c2.68d c2.68c c2.68e c2.688 c2.698 c2.691 c4.6a9 c4.6af
  c4.6b3 c4.6b1 c2.6ba c4.6bb c2.6c0 c4.6c1 c4.6be c2.6d2 c2.6d3 v21 c4.6ad c2.6c7 c2.6c6 c2.6c8
  m6c7.674 c2.6cb c2.6c5 c2.6c9 c4.6d0 c2.649 m626.627 m626.627 m626.6d5 m626.6d5 m626.648
  m626.648 m626.6c7 m626.6c7 m626.6c6 m626.6c6 m626.6c8 m626.6c8 m626.6d0 m626.6d0 m626.6d0
  m626.649 m626.649 m626.649 c4.6cc m626.62c m626.62d m626.645 m626.649 m626.64a m628.62c
  m628.62d m628.62e m628.645 m628.649 m628.64a m62a.62c m62a.62d m62a.62e m62a.645 m62a.649
  m62a.64a m62b.62c m62b.645 m62b.649 m62b.64a m62c.62d m62c.645 m62d.62c m62d.645 m62e.62c
  m62e.62d m62e.645 m633.62c m633.62d m633.62e m633.645 m635.62d m635.645 m636.62c m636.62d
  m636.62e m636.645 m637.62d m637.645 m638.645 m639.62c m639.645 m63a.62c m63a.645 m641.62c
  m641.62d m641.62e m641.645 m641.649 m641.64a m642.62d m642.645 m642.649 m642.64a m643.627
  m643.62c m643.62d m643.62e m643.644 m643.645 m643.649 m643.64a m644.62c m644.62d m644.62e
  m644.645 m644.649 m644.64a m645.62c m645.62d m645.62e m645.645 m645.649 m645.64a m646.62c
  m646.62d m646.62e m646.645 m646.649 m646.64a m647.62c m647.645 m647.649 m647.64a m64a.62c
  m64a.62d m64a.62e m64a.645 m64a.649 m64a.64a m630.670 m631.670 m649.670 m20.64c.651
  m20.64d.651 m20.64e.651 m20.64f.651 m20.650.651 m20.651.670 m626.631 m626.632 m626.645
  m626.646 m626.649 m626.64a m628.631 m628.632 m628.645 m628.646 m628.649 m628.64a m62a.631
  m62a.632 m62a.645 m62a.646 m62a.649 m62a.64a m62b.631 m62b.632 m62b.645 m62b.646 m62b.649
  m62b.64a m641.649 m641.64a m642.649 m642.64a m643.627 m643.644 m643.645 m643.649 m643.64a
  m644.645 m644.649 m644.64a m645.627 m645.645 m646.631 m646.632 m646.645 m646.646 m646.649
  m646.64a m649.670 m64a.631 m64a.632 m64a.645 m64a.646 m64a.649 m64a.64a m626.62c m626.62d
  m626.62e m626.645 m626.647 m628.62c m628.62d m628.62e m628.645 m628.647 m62a.62c m62a.62d
  m62a.62e m62a.645 m62a.647 m62b.645 m62c.62d m62c.645 m62d.62c m62d.645 m62e.62c m62e.645
  m633.62c m633.62d m633.62e m633.645 m635.62d m635.62e m635.645 m636.62c m636.62d m636.62e
  m636.645 m637.62d m638.645 m639.62c m639.645 m63a.62c m63a.645 m641.62c m641.62d m641.62e
  m641.645 m642.62d m642.645 m643.62c m643.62d m643.62e m643.644 m643.645 m644.62c m644.62d
  m644.62e m644.645 m644.647 m645.62c m645.62d m645.62e m645.645 m646.62c m646.62d m646.62e
  m646.645 m646.647 m647.62c m647.645 m647.670 m64a.62c m64a.62d m64a.62e m64a.645 m64a.647
  m626.645 m626.647 m628.645 m628.647 m62a.645 m62a.647 m62b.645 m62b.647 m633.645 m633.647
  m634.645 m634.647 m643.644 m643.645 m644.645 m646.645 m646.647 m64a.645 m64a.647 m640.64e.651
  m640.64f.651 m640.650.651 m637.649 m637.64a m639.649 m639.64a m63a.649 m63a.64a m633.649
  m633.64a m634.649 m634.64a m62d.649 m62d.64a m62c.649 m62c.64a m62e.649 m62e.64a m635.649
  m635.64a m636.649 m636.64a m634.62c m634.62d m634.62e m634.645 m634.631 m633.631 m635.631
  m636.631 m637.649 m637.64a m639.649 m639.64a m63a.649 m63a.64a m633.649 m633.64a m634.649
  m634.64a m62d.649 m62d.64a m62c.649 m62c.64a m62e.649 m62e.64a m635.649 m635.64a m636.649
  m636.64a m634.62c m634.62d m634.62e m634.645 m634.631 m633.631 m635.631 m636.631 m634.62c
  m634.62d m634.62e m634.645 m633.647 m634.647 m637.645 m633.62c m633.62d m633.62e m634.62c
  m634.62d m634.62e m637.645 m638.645 m627.64b m627.64b v12 m62a.62c.645 m62a.62d.62c
  m62a.62d.62c m62a.62d.645 m62a.62e.645 m62a.645.62c m62a.645.62d m62a.645.62e m62c.645.62d
  m62c.645.62d m62d.645.64a m62d.645.649 m633.62d.62c m633.62c.62d m633.62c.649 m633.645.62d
  m633.645.62d m633.645.62c m633.645.645 m633.645.645 m635.62d.62d m635.62d.62d m635.645.645
  m634.62d.645 m634.62d.645 m634.62c.64a m634.645.62e m634.645.62e m634.645.645 m634.645.645
  m636.62d.649 m636.62e.645 m636.62e.645 m637.645.62d m637.645.62d m637.645.645 m637.645.64a
  m639.62c.645 m639.645.645 m639.645.645 m639.645.649 m63a.645.645 m63a.645.64a m63a.645.649
  m641.62e.645 m641.62e.645 m642.645.62d m642.645.645 m644.62d.645 m644.62d.64a m644.62d.649
  m644.62c.62c m644.62c.62c m644.62e.645 m644.62e.645 m644.645.62d m644.645.62d m645.62d.62c
  m645.62d.645 m645.62d.64a m645.62c.62d m645.62c.645 m645.62e.62c m645.62e.645 v2 m645.62c.62e
  m647.645.62c m647.645.645 m646.62d.645 m646.62d.649 m646.62c.645 m646.62c.645 m646.62c.649
  m646.645.64a m646.645.649 m64a.645.645 m64a.645.645 m628.62e.64a m62a.62c.64a m62a.62c.649
  m62a.62e.64a m62a.62e.649 m62a.645.64a m62a.645.649 m62c.645.64a m62c.62d.649 m62c.645.649
  m633.62e.649 m635.62d.64a m634.62d.64a m636.62d.64a m644.62c.64a m644.645.64a m64a.62d.64a
  m64a.62c.64a m64a.645.64a m645.645.64a m642.645.64a m646.62d.64a m642.645.62d m644.62d.645
  m639.645.64a m643.645.64a m646.62c.62d m645.62e.64a m644.62c.645 m643.645.645 m644.62c.645
  m646.62c.62d m62c.62d.64a m62d.62c.64a m645.62c.64a m641.645.64a m628.62d.64a m643.645.645
  m639.62c.645 m635.645.645 m633.62e.64a m646.62c.64a v8 x20 m635.644.6d2 m642.644.6d2
  m627.644.644.647 m627.643.628.631 m645.62d.645.62f m635.644.639.645 m631.633.648.644
  m639.644.64a.647 m648.633.644.645 m635.644.649
  m635.644.649.20.627.644.644.647.20.639.644.64a.647.20.648.633.644.645
  m62c.644.20.62c.644.627.644.647 m631.6cc.627.644 v3 i10 m2c m3001 x1 s2.3a m21 m3f s2.3016 x7
  v10 x1 m2014 m2013 c2.5f s2.28 m7b m7d s2.3014 s2.3010 s2.300a s2.3008 s4.300c v2 m5b m5d
  m20.305 m20.305 m20.305 m20.305 c3.5f m2c m3001 x2 m3b m3a m3f m21 m2014 s2.28 m7b m7d s2.3014
  m23 m26 s2.2a m2d m3c m3e m3d x1 m5c s2.24 m40 x4 m20.64b m640.64b m20.64c v1 m20.64d x1
  m20.64e m640.64e m20.64f m640.64f m20.650 m640.650 m20.651 m640.651 m20.652 m640.652 s2.621
  s2.622 s2.623 s2.624 s2.625 c3.626 c2.627 c4.628 c2.629 c4.62a c4.62b c4.62c c4.62d c4.62e
  c2.62f c2.630 c2.631 c2.632 c4.633 c4.634 c4.635 c4.636 c4.637 c4.638 c4.639 c4.63a c4.641
  c4.642 c4.643 c4.644 c4.645 c4.646 c4.647 c2.648 c2.649 c4.64a m644.622 m644.622 m644.623
  m644.623 m644.625 m644.625 m644.627 m644.627 x2 i1 x1 s20.21 s1a.61 s24.5b s2.2985 m2e s2.300c
  m3001 m30fb m30f2 m30a1 m30a3 m30a5 m30a7 m30a9 m30e3 m30e5 m30e7 m30c3 m30fc m30a2 m30a4
  m30a6 m30a8 s2.30aa m30ad m30af m30b1 m30b3 m30b5 m30b7 m30b9 m30bb m30bd m30bf m30c1 m30c4
  m30c6 m30c8 s6.30ca m30d2 m30d5 m30d8 m30db s5.30de m30e4 m30e6 s6.30e8 m30ef m30f3 s2.3099 i1
  s2.1100 m11aa m1102 s2.11ac s3.1103 s6.11b0 m111a s3.1106 m1121 sa.1109 x3 s6.1161 x2 s6.1167
  x2 s6.116d x2 s3.1173 x3 s2.a2 mac m20.304 ma6 ma5 m20a9 x1 m2502 s4.2190 m25a0 m25cb x11 vc
  x1 v1a x1 v13 x1 v2 x1 vf x2 ve x22 v7b x5 v3 x4 v2d x3 v58 x1 vd x3 v1 x2f v2e x82 v1d x3 v31
  xf v1c x4 v24 x9 v1e x5 v2b x5 v1e x1 v25 x4 ve x2a s28.10428 v76 x2 va x6 s24.104d8 x4 v24 x4
  v28 x8 v34 xb v1 sb.10597 x1 sf.105a3 x1 s7.105b3 x1 s2.105bb x1 vb x1 vf x1 v7 x1 v2 x3 v34
  xc v137 x9 v16 xa v8 x18 v1 s2.2d0 me6 m299 m253 x1 m2a3 mab66 m2a5 m2a4 s2.256 m1d91 m258
  m25e m2a9 m264 m262 m260 m29b m127 m29c m267 m284 s2.2aa m26c m1df04 ma78e m26e m1df05 m28e
  m1df06 mf8 s2.276 m71 m27a m1df08 s2.27d m280 m2a8 m2a6 mab67 m2a7 m288 m2c71 x1 m28f s2.2a1
  m298 s3.1c0 m1df0a m1df1e x45 v6 x2 v1 x1 v2c x1 v2 x3 v1 x2 v17 x1 v48 x8 v9 x30 v13 x1 v2 x5
  v21 x3 v1b x5 v1b x26 v38 x4 v14 x2 v32 x1 v2 x5 v8 x1 v3 x1 v1d x2 v3 x4 va x7 v9 x7 v40 x20
  v27 x4 vc x9 v36 x3 v1d x2 v1b x5 v1a x7 v4 xc v7 x50 v49 x37 s33.10cc0 xd v33 x7 v2e x8 va x6
  v10 s16.10d70 x3 v1d x8 v2 xd0 v1f x1 v2a x1 v3 x2 v2 x10 v6 x8 v9 x21 v2e x8 v2a x16 v1a x26
  v1c x14 v17 x9 v4e x4 v24 x9 v3e x1 v5 xd v19 x7 va x6 v35 x1 v12 x8 v27 x9 v60 x1 v14 xb v12
  x1 v2f x3e v7 x1 v1 x1 v4 x1 vf x1 vb x6 v3b x5 va x6 v4 x1 v8 x2 v2 x2 v16 x1 v7 x1 v2 x1 v5
  x1 va x2 v2 x2 v3 x2 v1 x6 v1 x5 v7 x2 v7 x3 v5 xb va x1 v1 x2 v1 x1 v26 x1 va x1 v1 x2 v1 x1
  v4 x1 va x1 v2 x8 v2 x1d v5c x1 v5 x1e v48 x8 va xa6 v36 x2 v26 x22 v45 xb va x6 vd x13 v3a x6
  va x6 v14 x1c v1b x2 vf x4 v17 xb9 v3c x64 s20.118c0 v33 xc v8 x2 v1 x2 v8 x1 v2 x1 v1e x1 v2
  x2 vc x9 va x46 v8 x2 v2e x2 vb x1b v48 x8 v53 xd v49 x7 va x56 v8 x58 v22 xe va x6 v9 x1 v2d
  x1 ve xa v1d x3 v20 x2 v16 x1 ve x49 v7 x1 v2 x1 v2c x3 v1 x1 v2 x1 v9 x8 va x6 v6 x1 v2 x1
  v25 x1 v2 x1 v6 x7 va x6 v2c x4 va xf6 v19 x7 v11 x1 v29 x3 v1d x55 v1 xf v32 xd v39b x66 v6f
  x1 v5 xb vc4 xa4c v63 xd v430 x10 v16 xa vf9b x5 v247 x1ab9 v3a x6c6 v239 x7 v1f x1 va x4 v51
  x1 va x6 v1e x2 v6 xa v46 xa va x1 v7 x1 v15 x5 v13 x1b0 v3a xc6 s20.16e60 v3b x5 s19.16ebb x2
  v19 x2c v4b x4 v39 x7 v11 x40 v5 xb v7 x9 v1cd6 x29 v20 x61 v73 x21fd v4 x1 v7 x1 v2 x1 v123
  xf v1 x1d v3 x2 v1 xe v4 x8 v18c x904 v6b x5 vd x3 v9 x7 va x2 v4 i4 xf5c vd6 s1a.61 sa.30 v3
  x3 v1b4 x6 v17 xf v11 xf v2e x2 v17 x9 v74 x3c vf6 xa v27 x2 v35 m1d157.1d165 m1d158.1d165
  m1d158.1d165.1d16e m1d158.1d165.1d16f m1d158.1d165.1d170 m1d158.1d165.1d171 m1d158.1d165.1d172
  ve i8 v40 m1d1b9.1d165 m1d1ba.1d165 m1d1b9.1d165.1d16e m1d1ba.1d165.1d16e m1d1b9.1d165.1d16f
  m1d1ba.1d165.1d16f v2a x15 v46 x7a v14 xc v14 xc v57 x9 v19 x87 s1a.61 s1a.61 s1a.61 s7.61 x1
  s12.69 s1a.61 s1a.61 m61 x1 s2.63 x2 m67 x2 s2.6a x2 s4.6e x1 s8.73 s4.61 x1 m66 x1 s7.68 x1
  sb.70 s1a.61 s1a.61 s2.61 x1 s4.64 x2 s8.6a x1 s7.73 x1 s1a.61 s2.61 x1 s4.64 x1 s5.69 x1 m6f
  x3 s7.73 x1 s1a.61 s1a.61 s1a.61 s1a.61 s1a.61 s1a.61 s1a.61 s1a.61 s1a.61 s1a.61 s1a.61
  s1a.61 s1a.61 m131 m237 x2 s11.3b1 m3b8 s7.3c3 m2207 s11.3b1 c2.3c3 s6.3c4 m2202 m3b5 m3b8
  m3ba m3c6 m3c1 m3c0 s11.3b1 m3b8 s7.3c3 m2207 s11.3b1 c2.3c3 s6.3c4 m2202 m3b5 m3b8 m3ba m3c6
  m3c1 m3c0 s11.3b1 m3b8 s7.3c3 m2207 s11.3b1 c2.3c3 s6.3c4 m2202 m3b5 m3b8 m3ba m3c6 m3c1 m3c0
  s11.3b1 m3b8 s7.3c3 m2207 s11.3b1 c2.3c3 s6.3c4 m2202 m3b5 m3b8 m3ba m3c6 m3c1 m3c0 s11.3b1
  m3b8 s7.3c3 m2207 s11.3b1 c2.3c3 s6.3c4 m2202 m3b5 m3b8 m3ba m3c6 m3c1 m3c0 c2.3dd x2 sa.30
  sa.30 sa.30 sa.30 sa.30 v28c xf v5 x1 vf x450 v1f x6 v6 xd5 v7 x1 v11 x2 v7 x1 v2 x1 v5 x5
  s9.430 s3.43a sb.43e m44b s2.44d ma689 m4d9 m456 m458 m4e9 m4af m4cf s9.430 s2.43a s2.43e m441
  s6.443 s2.44a m491 m456 m455 m45f m4ab ma651 m4b1 x21 v1 x70 v2d x3 ve x2 va x4 v2 x140 v1f
  x11 v3a x5 v1 x1d0 v2a xd6 v2b x4 v1 xc0 v1f x1 v16 x8 v2 xe0 v7 x1 v4 x1 v2 x1 vf x1 vc5 x2
  v10 x29 s22.1e922 v2a x4 va x4 v2 x311 v44 x4c v3d xc2 s2.627 m62c m62f x1 m648 m632 m62d m637
  m64a s4.643 m633 m639 m641 m635 m642 m631 m634 s2.62a m62e m630 m636 m638 m63a m66e m6ba m6a1
  m66f x1 m628 m62c x1 m647 x2 m62d x1 m64a s4.643 m633 m639 m641 m635 m642 x1 m634 s2.62a m62e
  x1 m636 x1 m63a x6 m62c x4 m62d x1 m64a x1 m644 x1 m646 m633 m639 x1 m635 m642 x1 m634 x2 m62e
  x1 m636 x1 m63a x1 m6ba x1 m66f x1 m628 m62c x1 m647 x2 m62d m637 m64a m643 x1 s2.645 m633
  m639 m641 m635 m642 x1 m634 s2.62a m62e x1 m636 m638 m63a m66e x1 m6a1 x1 s2.627 m62c m62f
  s2.647 m632 m62d m637 m64a x1 s3.644 m633 m639 m641 m635 m642 m631 m634 s2.62a m62e m630 m636
  m638 m63a x5 m628 m62c m62f x1 m648 m632 m62d m637 m64a x1 s3.644 m633 m639 m641 m635 m642
  m631 m634 s2.62a m62e m630 m636 m638 m63a x34 v2 x10e v2c x4 v64 xc vf x2 vf x1 vf x1 v25 xb
  m30.2c m31.2c m32.2c m33.2c m34.2c m35.2c m36.2c m37.2c m38.2c m39.2c v5 m28.61.29 m28.62.29
  m28.63.29 m28.64.29 m28.65.29 m28.66.29 m28.67.29 m28.68.29 m28.69.29 m28.6a.29 m28.6b.29
  m28.6c.29 m28.6d.29 m28.6e.29 m28.6f.29 m28.70.29 m28.71.29 m28.72.29 m28.73.29 m28.74.29
  m28.75.29 m28.76.29 m28.77.29 m28.78.29 m28.79.29 m28.7a.29 m3014.73.3015 m63 m72 m63.64
  m77.7a v1 s1a.61 m68.76 m6d.76 m73.64 m73.73 m70.70.76 m77.63 v1a m6d.63 m6d.64 m6d.72 v23
  m64.6a v1d x38 v1a m307b.304b m30b3.30b3 m30b5 xd m624b m5b57 m53cc m30c7 m4e8c m591a m89e3
  m5929 m4ea4 m6620 m7121 m6599 m524d m5f8c m518d m65b0 m521d m7d42 m751f m8ca9 m58f0 m5439
  m6f14 m6295 m6355 m4e00 m4e09 m904a m5de6 m4e2d m53f3 m6307 m8d70 m6253 m7981 m7a7a m5408
  m6e80 m6709 m6708 m7533 m5272 m55b6 m914d x4 m3014.672c.3015 m3014.4e09.3015 m3014.4e8c.3015
  m3014.5b89.3015 m3014.70b9.3015 m3014.6253.3015 m3014.76d7.3015 m3014.52dd.3015
  m3014.6557.3015 x7 m5f97 m53ef xe v6 x9a v3d9 x3 v11 x3 vd x3 vda x6 vc x4 v1 xf vc x4 v38 x8
  va x6 v28 x8 v1e x2 vc x4 v2 xe v9 x27 v158 x8 ve x2 vd x3 vb x3 v39 x1 v1 x4 v10 x2 vc x4 va
  x7 v93 x1 v5c sa.30 v1 x405 va6e0 x20 v111e x2 v168e x2 v1d31 xf v26e x9a2 m4e3d m4e38 m4e41
  m20122 m4f60 m4fae m4fbb m5002 m507a m5099 m50e7 m50cf m349e m2063a m514d m5154 m5164 m5177
  m2051c m34b9 m5167 m518d m2054b m5197 m51a4 m4ecc m51ac m51b5 m291df m51f5 m5203 m34df m523b
  m5246 m5272 m5277 m3515 m52c7 m52c9 m52e4 m52fa s2.5305 m5317 m5349 m5351 m535a m5373 m537d
  c3.537f m20a2c m7070 m53ca m53df m20b63 m53eb m53f1 m5406 m549e m5438 m5448 m5468 m54a2 m54f6
  m5510 m5553 m5563 c2.5584 m5599 m55ab m55b3 m55c2 m5716 m5606 m5717 m5651 m5674 m5207 m58ee
  m57ce m57f4 m580d m578b m5832 m5831 m58ac m214e4 m58f2 m58f7 m5906 m591a m5922 m5962 m216a8
  m216ea m59ec m5a1b m5a27 m59d8 m5a66 m36ee m36fc m5b08 c2.5b3e m219c8 m5bc3 m5bd8 m5be7 m5bf3
  m21b18 m5bff m5c06 m5f53 m5c22 m3781 m5c60 m5c6e m5cc0 m5c8d m21de4 m5d43 m21de6 m5d6e m5d6b
  m5d7c s2.5de1 m382f m5dfd m5e28 m5e3d m5e69 m3862 m22183 m387c m5eb0 m5eb3 m5eb6 m5eca m2a392
  m5efe c2.22331 m8201 c2.5f22 m38c7 m232b8 m261da m5f62 m5f6b m38e3 m5f9a m5fcd m5fd7 m5ff9
  m6081 m393a m391c m6094 m226d4 m60c7 m6148 m614c m614e m614c m617a m618e m61b2 m61a4 m61af
  m61de m61f2 m61f6 m6210 m621b m625d m62b1 m62d4 m6350 m22b0c m633d m62fc m6368 m6383 m63e4
  m22bf1 m6422 m63c5 m63a9 m3a2e m6469 m647e m649d m6477 m3a6c m654f m656c m2300a m65e3 m66f8
  m6649 m3b19 m6691 m3b08 m3ae4 m5192 m5195 m6700 m669c m80ad m43d9 m6717 m671b m6721 m675e
  m6753 m233c3 m3b49 m67fa m6785 m6852 m6885 m2346d m688e m681f m6914 m3b9d m6942 m69a3 m69ea
  m6aa8 m236a3 m6adb m3c18 m6b21 m238a7 m6b54 m3c4e m6b72 m6b9f s2.6bba m23a8d m21d0b m23afa
  m6c4e m23cbc m6cbf m6ccd m6c67 m6d16 m6d3e m6d77 m6d41 m6d69 m6d78 m6d85 m23d1e m6d34 m6e2f
  m6e6e m3d33 m6ecb m6ec7 m23ed1 m6df9 m6f6e m23f5e m23f8e m6fc6 m7039 m701e m701b m3d96 m704a
  m707d m7077 m70ad m20525 m7145 m24263 m719c m243ab m7228 m7235 m7250 m24608 m7280 m7295 m24735
  m24814 m737a m738b m3eac m73a5 c2.3eb8 m7447 m745c m7471 m7485 m74ca m3f1b m7524 m24c36 m753e
  m24c92 m7570 m2219f m7610 m24fa1 m24fb8 m25044 m3ffc m4008 m76f4 m250f3 m250f2 m25119 m25133
  s2.771e m771f m774a m4039 m778b m4046 m4096 m2541d m784e m788c m78cc m40e3 m25626 m7956 m2569a
  m256c5 m798f m79eb m412f m7a40 m7a4a m7a4f m2597c c2.25aa7 m7aee m4202 m25bab m7bc6 m7bc9
  m4227 m25c80 m7cd2 m42a0 m7ce8 m7ce3 m7d00 m25f86 m7d63 m4301 m7dc7 m7e02 m7e45 m4334 m26228
  m26247 m4359 m262d9 m7f7a m2633e m7f95 m7ffa m8005 m264da m26523 m8060 m265a8 m8070 m2335f
  m43d5 m80b2 m8103 m440b m813e m5ab5 m267a7 m267b5 m23393 m2339c m8201 m8204 m8f9e m446b m8291
  m828b m829d m52b3 m82b1 m82b3 m82bd m82e6 m26b3c m82e5 m831d m8363 m83ad m8323 m83bd m83e7
  m8457 m8353 m83ca m83cc m83dc m26c36 m26d6b m26cd5 m452b m84f1 m84f3 m8516 m273ca m8564 m26f2c
  m455d m4561 m26fb1 m270d2 m456b m8650 m865c m8667 m8669 m86a9 m8688 m870e m86e2 m8779 m8728
  m876b m8786 m45d7 m87e1 m8801 m45f9 m8860 m8863 m27667 m88d7 m88de m4635 m88fa m34bb m278ae
  m27966 m46be m46c7 m8aa0 m8aed m8b8a m8c55 m27ca8 m8cab m8cc1 m8d1b m8d77 m27f2f m20804 m8dcb
  m8dbc m8df0 m208de m8ed4 m8f38 m285d2 m285ed m9094 m90f1 m9111 m2872e m911b m9238 s2.92d7
  m927c m93f9 m9415 m28bfa m958b m4995 m95b7 m28d77 m49e6 m96c3 m5db2 m9723 m29145 m2921a m4a6e
  m4a76 m97e0 m2940a m4ab2 m29496 c2.980b m9829 m295b6 m98e2 m4b33 m9929 m99a7 m99c2 m99fe m4bce
  m29b30 m9b12 m9c40 m9cfd m4cce m4ced m9d67 m2a0ce m4cf8 m2a105 m2a20e m2a291 m9ebb m4d56 m9ef9
  m9efe m9f05 m9f0f m9f16 m9f3b m2a600 x5e2 v134b x5 v212a xacc86 if0 x2fe10"

end Reroute.Unicode
