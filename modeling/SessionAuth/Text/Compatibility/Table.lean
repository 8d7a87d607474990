/-
The data of compatibility normalisation: what a character stands for, which class a
combining mark has, and which pairs of characters have a character of their own.
-/
import SessionAuth.Text.Ranges

namespace SessionAuth.Text.Compatibility

/-- A run of code points, each of which stands for the one at the same place of another run. -/
structure Shift where
  first : Nat
  last : Nat
  target : Nat
  deriving Repr

/-- The runs of characters that stand for single characters. -/
def shifts : List Shift :=
  (triples (hexNumbers "
  b2 b3 32 340 341 300 3f1 3f2 3c1 1d30 1d31 44 1d33 1d3a 47 1d40 1d41 54 1d44 1d45 250
  1d48 1d49 64 1d4b 1d4c 25b 1d54 1d55 1d16 1d57 1d58 74 1d5d 1d5f 3b2 1d60 1d61 3c6 1d64 1d65 75
  1d66 1d67 3b2 1d69 1d6a 3c6 1da4 1da6 268 1dae 1db1 272 1db3 1db4 282 1db6 1db7 289
  1db9 1dba 28b 1dbc 1dbe 290 2074 2079 34 207d 207e 28 2080 2089 30 208d 208e 28 2096 2099 6b
  209b 209c 73 2119 211b 50 212c 212d 42 2130 2131 45 2135 2138 5d0 2146 2147 64 2148 2149 69
  216d 216e 43 217d 217e 63 2329 232a 3008 2460 2468 31 24b6 24cf 41 24d0 24e9 61 3039 303a 5344
  3131 3132 1100 3135 3136 11ac 3137 3139 1103 313a 313f 11b0 3141 3143 1106 3145 314e 1109
  314f 3163 1161 3165 3166 1114 3167 3168 11c7 3171 3172 111d 3174 3175 1122 3178 317c 112b
  3182 3183 11f1 3184 3186 1157 3187 3188 1184 318a 318b 1191 3261 3262 1102 3263 3265 1105
  3267 3268 110b 3269 326d 110e 32d4 32d5 30aa 32e4 32e9 30ca 32ee 32f2 30de 32f5 32fa 30e8
  32fb 32fe 30ef fa52 fa53 798d fb22 fb23 5d3 fb24 fb26 5db fb7d fb7e 686 fb9f fba0 6ba
  fe11 fe12 3001 fe13 fe14 3a fe17 fe18 3016 fe35 fe36 28 fe39 fe3a 3014 fe3b fe3c 3010
  fe3d fe3e 300a fe3f fe40 3008 fe41 fe44 300c fe59 fe5a 28 fe5d fe5e 3014 fe61 fe62 2a
  fe69 fe6a 24 fe8e fe8f 627 fe92 fe93 628 fe94 fe95 629 fe98 fe99 62a fe9c fe9d 62b fea0 fea1 62c
  fea4 fea5 62d fea8 fea9 62e feaa feab 62f feac fead 630 feae feaf 631 feb0 feb1 632
  feb4 feb5 633 feb8 feb9 634 febc febd 635 fec0 fec1 636 fec4 fec5 637 fec8 fec9 638
  fecc fecd 639 fed4 fed5 641 fed8 fed9 642 fedc fedd 643 fee0 fee1 644 fee4 fee5 645
  fee8 fee9 646 feec feed 647 feee feef 648 fef0 fef1 649 ff01 ff5e 21 ff5f ff60 2985
  ff62 ff63 300c ff75 ff76 30aa ff85 ff8a 30ca ff8f ff93 30de ff96 ff9b 30e8 ff9e ff9f 3099
  ffa1 ffa2 1100 ffa5 ffa6 11ac ffa7 ffa9 1103 ffaa ffaf 11b0 ffb1 ffb3 1106 ffb5 ffbe 1109
  ffc2 ffc7 1161 ffca ffcf 1167 ffd2 ffd7 116d ffda ffdc 1173 ffe0 ffe1 a2 ffe9 ffec 2190
  10781 10782 2d0 1078b 1078c 256 10799 1079a 2aa 107a3 107a4 276 107a8 107a9 27d 107b3 107b4 2a1
  107b6 107b8 1c0 1ccd6 1ccef 41 1ccf0 1ccf9 30 1d400 1d419 41 1d41a 1d433 61 1d434 1d44d 41
  1d44e 1d454 61 1d456 1d467 69 1d468 1d481 41 1d482 1d49b 61 1d49e 1d49f 43 1d4a5 1d4a6 4a
  1d4a9 1d4ac 4e 1d4ae 1d4b5 53 1d4b6 1d4b9 61 1d4bd 1d4c3 68 1d4c5 1d4cf 70 1d4d0 1d4e9 41
  1d4ea 1d503 61 1d504 1d505 41 1d507 1d50a 44 1d50d 1d514 4a 1d516 1d51c 53 1d51e 1d537 61
  1d538 1d539 41 1d53b 1d53e 44 1d540 1d544 49 1d54a 1d550 53 1d552 1d56b 61 1d56c 1d585 41
  1d586 1d59f 61 1d5a0 1d5b9 41 1d5ba 1d5d3 61 1d5d4 1d5ed 41 1d5ee 1d607 61 1d608 1d621 41
  1d622 1d63b 61 1d63c 1d655 41 1d656 1d66f 61 1d670 1d689 41 1d68a 1d6a3 61 1d6a8 1d6b8 391
  1d6ba 1d6c0 3a3 1d6c2 1d6da 3b1 1d6e2 1d6f2 391 1d6f4 1d6fa 3a3 1d6fc 1d714 3b1 1d71c 1d72c 391
  1d72e 1d734 3a3 1d736 1d74e 3b1 1d756 1d766 391 1d768 1d76e 3a3 1d770 1d788 3b1 1d790 1d7a0 391
  1d7a2 1d7a8 3a3 1d7aa 1d7c2 3b1 1d7ca 1d7cb 3dc 1d7ce 1d7d7 30 1d7d8 1d7e1 30 1d7e2 1d7eb 30
  1d7ec 1d7f5 30 1d7f6 1d7ff 30 1e030 1e038 430 1e039 1e03b 43a 1e03c 1e046 43e 1e048 1e049 44d
  1e051 1e059 430 1e05a 1e05b 43a 1e05c 1e05d 43e 1e05f 1e064 443 1e065 1e066 44a 1ee00 1ee01 627
  1ee0a 1ee0d 643 1ee15 1ee16 62a 1ee2a 1ee2d 643 1ee35 1ee36 62a 1ee6c 1ee6d 645 1ee75 1ee76 62a
  1ee80 1ee81 627 1ee84 1ee85 647 1ee8b 1ee8d 644 1ee95 1ee96 62a 1eeab 1eead 644 1eeb5 1eeb6 62a
  1f130 1f149 41 1fbf0 1fbf9 30 2f829 2f82a 5305 2f881 2f882 5de1 2f8f5 2f8f6 6bba
  2f945 2f946 771e 2f9e8 2f9e9 92d7")).map
    fun row => ⟨row.1, row.2.1, row.2.2⟩

/-- A character together with everything it stands for, fully expanded. -/
structure Expansion where
  source : Nat
  parts : List Nat
  deriving Repr

/-- The rows of a table of expansions: a code point, how many parts follow, and the parts. -/
def Expansion.ofNumbers : Nat → List Nat → List Expansion
  | 0, _ => []
  | fuel + 1, source :: count :: rest =>
    ⟨source, rest.take count⟩ :: Expansion.ofNumbers fuel (rest.drop count)
  | _ + 1, _ => []

/-- The characters that stand for something and are in no run, by ascending code point. -/
def expansions : Array Expansion :=
  let numbers := hexNumbers "
  a0 1 20 a8 2 20 308 aa 1 61 af 2 20 304 b4 2 20 301 b5 1 3bc b8 2 20 327 b9 1 31 ba 1 6f
  bc 3 31 2044 34 bd 3 31 2044 32 be 3 33 2044 34 c0 2 41 300 c1 2 41 301 c2 2 41 302 c3 2 41 303
  c4 2 41 308 c5 2 41 30a c7 2 43 327 c8 2 45 300 c9 2 45 301 ca 2 45 302 cb 2 45 308 cc 2 49 300
  cd 2 49 301 ce 2 49 302 cf 2 49 308 d1 2 4e 303 d2 2 4f 300 d3 2 4f 301 d4 2 4f 302 d5 2 4f 303
  d6 2 4f 308 d9 2 55 300 da 2 55 301 db 2 55 302 dc 2 55 308 dd 2 59 301 e0 2 61 300 e1 2 61 301
  e2 2 61 302 e3 2 61 303 e4 2 61 308 e5 2 61 30a e7 2 63 327 e8 2 65 300 e9 2 65 301 ea 2 65 302
  eb 2 65 308 ec 2 69 300 ed 2 69 301 ee 2 69 302 ef 2 69 308 f1 2 6e 303 f2 2 6f 300 f3 2 6f 301
  f4 2 6f 302 f5 2 6f 303 f6 2 6f 308 f9 2 75 300 fa 2 75 301 fb 2 75 302 fc 2 75 308 fd 2 79 301
  ff 2 79 308 100 2 41 304 101 2 61 304 102 2 41 306 103 2 61 306 104 2 41 328 105 2 61 328
  106 2 43 301 107 2 63 301 108 2 43 302 109 2 63 302 10a 2 43 307 10b 2 63 307 10c 2 43 30c
  10d 2 63 30c 10e 2 44 30c 10f 2 64 30c 112 2 45 304 113 2 65 304 114 2 45 306 115 2 65 306
  116 2 45 307 117 2 65 307 118 2 45 328 119 2 65 328 11a 2 45 30c 11b 2 65 30c 11c 2 47 302
  11d 2 67 302 11e 2 47 306 11f 2 67 306 120 2 47 307 121 2 67 307 122 2 47 327 123 2 67 327
  124 2 48 302 125 2 68 302 128 2 49 303 129 2 69 303 12a 2 49 304 12b 2 69 304 12c 2 49 306
  12d 2 69 306 12e 2 49 328 12f 2 69 328 130 2 49 307 132 2 49 4a 133 2 69 6a 134 2 4a 302
  135 2 6a 302 136 2 4b 327 137 2 6b 327 139 2 4c 301 13a 2 6c 301 13b 2 4c 327 13c 2 6c 327
  13d 2 4c 30c 13e 2 6c 30c 13f 2 4c b7 140 2 6c b7 143 2 4e 301 144 2 6e 301 145 2 4e 327
  146 2 6e 327 147 2 4e 30c 148 2 6e 30c 149 2 2bc 6e 14c 2 4f 304 14d 2 6f 304 14e 2 4f 306
  14f 2 6f 306 150 2 4f 30b 151 2 6f 30b 154 2 52 301 155 2 72 301 156 2 52 327 157 2 72 327
  158 2 52 30c 159 2 72 30c 15a 2 53 301 15b 2 73 301 15c 2 53 302 15d 2 73 302 15e 2 53 327
  15f 2 73 327 160 2 53 30c 161 2 73 30c 162 2 54 327 163 2 74 327 164 2 54 30c 165 2 74 30c
  168 2 55 303 169 2 75 303 16a 2 55 304 16b 2 75 304 16c 2 55 306 16d 2 75 306 16e 2 55 30a
  16f 2 75 30a 170 2 55 30b 171 2 75 30b 172 2 55 328 173 2 75 328 174 2 57 302 175 2 77 302
  176 2 59 302 177 2 79 302 178 2 59 308 179 2 5a 301 17a 2 7a 301 17b 2 5a 307 17c 2 7a 307
  17d 2 5a 30c 17e 2 7a 30c 17f 1 73 1a0 2 4f 31b 1a1 2 6f 31b 1af 2 55 31b 1b0 2 75 31b
  1c4 3 44 5a 30c 1c5 3 44 7a 30c 1c6 3 64 7a 30c 1c7 2 4c 4a 1c8 2 4c 6a 1c9 2 6c 6a 1ca 2 4e 4a
  1cb 2 4e 6a 1cc 2 6e 6a 1cd 2 41 30c 1ce 2 61 30c 1cf 2 49 30c 1d0 2 69 30c 1d1 2 4f 30c
  1d2 2 6f 30c 1d3 2 55 30c 1d4 2 75 30c 1d5 3 55 308 304 1d6 3 75 308 304 1d7 3 55 308 301
  1d8 3 75 308 301 1d9 3 55 308 30c 1da 3 75 308 30c 1db 3 55 308 300 1dc 3 75 308 300
  1de 3 41 308 304 1df 3 61 308 304 1e0 3 41 307 304 1e1 3 61 307 304 1e2 2 c6 304 1e3 2 e6 304
  1e6 2 47 30c 1e7 2 67 30c 1e8 2 4b 30c 1e9 2 6b 30c 1ea 2 4f 328 1eb 2 6f 328 1ec 3 4f 328 304
  1ed 3 6f 328 304 1ee 2 1b7 30c 1ef 2 292 30c 1f0 2 6a 30c 1f1 2 44 5a 1f2 2 44 7a 1f3 2 64 7a
  1f4 2 47 301 1f5 2 67 301 1f8 2 4e 300 1f9 2 6e 300 1fa 3 41 30a 301 1fb 3 61 30a 301
  1fc 2 c6 301 1fd 2 e6 301 1fe 2 d8 301 1ff 2 f8 301 200 2 41 30f 201 2 61 30f 202 2 41 311
  203 2 61 311 204 2 45 30f 205 2 65 30f 206 2 45 311 207 2 65 311 208 2 49 30f 209 2 69 30f
  20a 2 49 311 20b 2 69 311 20c 2 4f 30f 20d 2 6f 30f 20e 2 4f 311 20f 2 6f 311 210 2 52 30f
  211 2 72 30f 212 2 52 311 213 2 72 311 214 2 55 30f 215 2 75 30f 216 2 55 311 217 2 75 311
  218 2 53 326 219 2 73 326 21a 2 54 326 21b 2 74 326 21e 2 48 30c 21f 2 68 30c 226 2 41 307
  227 2 61 307 228 2 45 327 229 2 65 327 22a 3 4f 308 304 22b 3 6f 308 304 22c 3 4f 303 304
  22d 3 6f 303 304 22e 2 4f 307 22f 2 6f 307 230 3 4f 307 304 231 3 6f 307 304 232 2 59 304
  233 2 79 304 2b0 1 68 2b1 1 266 2b2 1 6a 2b3 1 72 2b4 1 279 2b5 1 27b 2b6 1 281 2b7 1 77 2b8 1 79
  2d8 2 20 306 2d9 2 20 307 2da 2 20 30a 2db 2 20 328 2dc 2 20 303 2dd 2 20 30b 2e0 1 263 2e1 1 6c
  2e2 1 73 2e3 1 78 2e4 1 295 343 1 313 344 2 308 301 374 1 2b9 37a 2 20 345 37e 1 3b 384 2 20 301
  385 3 20 308 301 386 2 391 301 387 1 b7 388 2 395 301 389 2 397 301 38a 2 399 301 38c 2 39f 301
  38e 2 3a5 301 38f 2 3a9 301 390 3 3b9 308 301 3aa 2 399 308 3ab 2 3a5 308 3ac 2 3b1 301
  3ad 2 3b5 301 3ae 2 3b7 301 3af 2 3b9 301 3b0 3 3c5 308 301 3ca 2 3b9 308 3cb 2 3c5 308
  3cc 2 3bf 301 3cd 2 3c5 301 3ce 2 3c9 301 3d0 1 3b2 3d1 1 3b8 3d2 1 3a5 3d3 2 3a5 301
  3d4 2 3a5 308 3d5 1 3c6 3d6 1 3c0 3f0 1 3ba 3f4 1 398 3f5 1 3b5 3f9 1 3a3 400 2 415 300
  401 2 415 308 403 2 413 301 407 2 406 308 40c 2 41a 301 40d 2 418 300 40e 2 423 306 419 2 418 306
  439 2 438 306 450 2 435 300 451 2 435 308 453 2 433 301 457 2 456 308 45c 2 43a 301 45d 2 438 300
  45e 2 443 306 476 2 474 30f 477 2 475 30f 4c1 2 416 306 4c2 2 436 306 4d0 2 410 306 4d1 2 430 306
  4d2 2 410 308 4d3 2 430 308 4d6 2 415 306 4d7 2 435 306 4da 2 4d8 308 4db 2 4d9 308 4dc 2 416 308
  4dd 2 436 308 4de 2 417 308 4df 2 437 308 4e2 2 418 304 4e3 2 438 304 4e4 2 418 308 4e5 2 438 308
  4e6 2 41e 308 4e7 2 43e 308 4ea 2 4e8 308 4eb 2 4e9 308 4ec 2 42d 308 4ed 2 44d 308 4ee 2 423 304
  4ef 2 443 304 4f0 2 423 308 4f1 2 443 308 4f2 2 423 30b 4f3 2 443 30b 4f4 2 427 308 4f5 2 447 308
  4f8 2 42b 308 4f9 2 44b 308 558 1 567 587 2 565 582 622 2 627 653 623 2 627 654 624 2 648 654
  625 2 627 655 626 2 64a 654 675 2 627 674 676 2 648 674 677 2 6c7 674 678 2 64a 674 6c0 2 6d5 654
  6c2 2 6c1 654 6d3 2 6d2 654 929 2 928 93c 931 2 930 93c 934 2 933 93c 958 2 915 93c 959 2 916 93c
  95a 2 917 93c 95b 2 91c 93c 95c 2 921 93c 95d 2 922 93c 95e 2 92b 93c 95f 2 92f 93c 9cb 2 9c7 9be
  9cc 2 9c7 9d7 9dc 2 9a1 9bc 9dd 2 9a2 9bc 9df 2 9af 9bc a33 2 a32 a3c a36 2 a38 a3c a59 2 a16 a3c
  a5a 2 a17 a3c a5b 2 a1c a3c a5e 2 a2b a3c b48 2 b47 b56 b4b 2 b47 b3e b4c 2 b47 b57 b5c 2 b21 b3c
  b5d 2 b22 b3c b94 2 b92 bd7 bca 2 bc6 bbe bcb 2 bc7 bbe bcc 2 bc6 bd7 c48 2 c46 c56 cc0 2 cbf cd5
  cc7 2 cc6 cd5 cc8 2 cc6 cd6 cca 2 cc6 cc2 ccb 3 cc6 cc2 cd5 d4a 2 d46 d3e d4b 2 d47 d3e
  d4c 2 d46 d57 dda 2 dd9 dca ddc 2 dd9 dcf ddd 3 dd9 dcf dca dde 2 dd9 ddf e33 2 e4d e32
  eb3 2 ecd eb2 edc 2 eab e99 edd 2 eab ea1 f0c 1 f0b f43 2 f42 fb7 f4d 2 f4c fb7 f52 2 f51 fb7
  f57 2 f56 fb7 f5c 2 f5b fb7 f69 2 f40 fb5 f73 2 f71 f72 f75 2 f71 f74 f76 2 fb2 f80
  f77 3 fb2 f71 f80 f78 2 fb3 f80 f79 3 fb3 f71 f80 f81 2 f71 f80 f93 2 f92 fb7 f9d 2 f9c fb7
  fa2 2 fa1 fb7 fa7 2 fa6 fb7 fac 2 fab fb7 fb9 2 f90 fb5 1026 2 1025 102e 10fc 1 10dc
  1b06 2 1b05 1b35 1b08 2 1b07 1b35 1b0a 2 1b09 1b35 1b0c 2 1b0b 1b35 1b0e 2 1b0d 1b35
  1b12 2 1b11 1b35 1b3b 2 1b3a 1b35 1b3d 2 1b3c 1b35 1b40 2 1b3e 1b35 1b41 2 1b3f 1b35
  1b43 2 1b42 1b35 1d2c 1 41 1d2d 1 c6 1d2e 1 42 1d32 1 18e 1d3c 1 4f 1d3d 1 222 1d3e 1 50
  1d3f 1 52 1d42 1 57 1d43 1 61 1d46 1 1d02 1d47 1 62 1d4a 1 259 1d4d 1 67 1d4f 1 6b 1d50 1 6d
  1d51 1 14b 1d52 1 6f 1d53 1 254 1d56 1 70 1d59 1 1d1d 1d5a 1 26f 1d5b 1 76 1d5c 1 1d25 1d62 1 69
  1d63 1 72 1d68 1 3c1 1d78 1 43d 1d9b 1 252 1d9c 1 63 1d9d 1 255 1d9e 1 f0 1d9f 1 25c 1da0 1 66
  1da1 1 25f 1da2 1 261 1da3 1 265 1da7 1 1d7b 1da8 1 29d 1da9 1 26d 1daa 1 1d85 1dab 1 29f
  1dac 1 271 1dad 1 270 1db2 1 278 1db5 1 1ab 1db8 1 1d1c 1dbb 1 7a 1dbf 1 3b8 1e00 2 41 325
  1e01 2 61 325 1e02 2 42 307 1e03 2 62 307 1e04 2 42 323 1e05 2 62 323 1e06 2 42 331 1e07 2 62 331
  1e08 3 43 327 301 1e09 3 63 327 301 1e0a 2 44 307 1e0b 2 64 307 1e0c 2 44 323 1e0d 2 64 323
  1e0e 2 44 331 1e0f 2 64 331 1e10 2 44 327 1e11 2 64 327 1e12 2 44 32d 1e13 2 64 32d
  1e14 3 45 304 300 1e15 3 65 304 300 1e16 3 45 304 301 1e17 3 65 304 301 1e18 2 45 32d
  1e19 2 65 32d 1e1a 2 45 330 1e1b 2 65 330 1e1c 3 45 327 306 1e1d 3 65 327 306 1e1e 2 46 307
  1e1f 2 66 307 1e20 2 47 304 1e21 2 67 304 1e22 2 48 307 1e23 2 68 307 1e24 2 48 323 1e25 2 68 323
  1e26 2 48 308 1e27 2 68 308 1e28 2 48 327 1e29 2 68 327 1e2a 2 48 32e 1e2b 2 68 32e 1e2c 2 49 330
  1e2d 2 69 330 1e2e 3 49 308 301 1e2f 3 69 308 301 1e30 2 4b 301 1e31 2 6b 301 1e32 2 4b 323
  1e33 2 6b 323 1e34 2 4b 331 1e35 2 6b 331 1e36 2 4c 323 1e37 2 6c 323 1e38 3 4c 323 304
  1e39 3 6c 323 304 1e3a 2 4c 331 1e3b 2 6c 331 1e3c 2 4c 32d 1e3d 2 6c 32d 1e3e 2 4d 301
  1e3f 2 6d 301 1e40 2 4d 307 1e41 2 6d 307 1e42 2 4d 323 1e43 2 6d 323 1e44 2 4e 307 1e45 2 6e 307
  1e46 2 4e 323 1e47 2 6e 323 1e48 2 4e 331 1e49 2 6e 331 1e4a 2 4e 32d 1e4b 2 6e 32d
  1e4c 3 4f 303 301 1e4d 3 6f 303 301 1e4e 3 4f 303 308 1e4f 3 6f 303 308 1e50 3 4f 304 300
  1e51 3 6f 304 300 1e52 3 4f 304 301 1e53 3 6f 304 301 1e54 2 50 301 1e55 2 70 301 1e56 2 50 307
  1e57 2 70 307 1e58 2 52 307 1e59 2 72 307 1e5a 2 52 323 1e5b 2 72 323 1e5c 3 52 323 304
  1e5d 3 72 323 304 1e5e 2 52 331 1e5f 2 72 331 1e60 2 53 307 1e61 2 73 307 1e62 2 53 323
  1e63 2 73 323 1e64 3 53 301 307 1e65 3 73 301 307 1e66 3 53 30c 307 1e67 3 73 30c 307
  1e68 3 53 323 307 1e69 3 73 323 307 1e6a 2 54 307 1e6b 2 74 307 1e6c 2 54 323 1e6d 2 74 323
  1e6e 2 54 331 1e6f 2 74 331 1e70 2 54 32d 1e71 2 74 32d 1e72 2 55 324 1e73 2 75 324 1e74 2 55 330
  1e75 2 75 330 1e76 2 55 32d 1e77 2 75 32d 1e78 3 55 303 301 1e79 3 75 303 301 1e7a 3 55 304 308
  1e7b 3 75 304 308 1e7c 2 56 303 1e7d 2 76 303 1e7e 2 56 323 1e7f 2 76 323 1e80 2 57 300
  1e81 2 77 300 1e82 2 57 301 1e83 2 77 301 1e84 2 57 308 1e85 2 77 308 1e86 2 57 307 1e87 2 77 307
  1e88 2 57 323 1e89 2 77 323 1e8a 2 58 307 1e8b 2 78 307 1e8c 2 58 308 1e8d 2 78 308 1e8e 2 59 307
  1e8f 2 79 307 1e90 2 5a 302 1e91 2 7a 302 1e92 2 5a 323 1e93 2 7a 323 1e94 2 5a 331 1e95 2 7a 331
  1e96 2 68 331 1e97 2 74 308 1e98 2 77 30a 1e99 2 79 30a 1e9a 2 61 2be 1e9b 2 73 307 1ea0 2 41 323
  1ea1 2 61 323 1ea2 2 41 309 1ea3 2 61 309 1ea4 3 41 302 301 1ea5 3 61 302 301 1ea6 3 41 302 300
  1ea7 3 61 302 300 1ea8 3 41 302 309 1ea9 3 61 302 309 1eaa 3 41 302 303 1eab 3 61 302 303
  1eac 3 41 323 302 1ead 3 61 323 302 1eae 3 41 306 301 1eaf 3 61 306 301 1eb0 3 41 306 300
  1eb1 3 61 306 300 1eb2 3 41 306 309 1eb3 3 61 306 309 1eb4 3 41 306 303 1eb5 3 61 306 303
  1eb6 3 41 323 306 1eb7 3 61 323 306 1eb8 2 45 323 1eb9 2 65 323 1eba 2 45 309 1ebb 2 65 309
  1ebc 2 45 303 1ebd 2 65 303 1ebe 3 45 302 301 1ebf 3 65 302 301 1ec0 3 45 302 300
  1ec1 3 65 302 300 1ec2 3 45 302 309 1ec3 3 65 302 309 1ec4 3 45 302 303 1ec5 3 65 302 303
  1ec6 3 45 323 302 1ec7 3 65 323 302 1ec8 2 49 309 1ec9 2 69 309 1eca 2 49 323 1ecb 2 69 323
  1ecc 2 4f 323 1ecd 2 6f 323 1ece 2 4f 309 1ecf 2 6f 309 1ed0 3 4f 302 301 1ed1 3 6f 302 301
  1ed2 3 4f 302 300 1ed3 3 6f 302 300 1ed4 3 4f 302 309 1ed5 3 6f 302 309 1ed6 3 4f 302 303
  1ed7 3 6f 302 303 1ed8 3 4f 323 302 1ed9 3 6f 323 302 1eda 3 4f 31b 301 1edb 3 6f 31b 301
  1edc 3 4f 31b 300 1edd 3 6f 31b 300 1ede 3 4f 31b 309 1edf 3 6f 31b 309 1ee0 3 4f 31b 303
  1ee1 3 6f 31b 303 1ee2 3 4f 31b 323 1ee3 3 6f 31b 323 1ee4 2 55 323 1ee5 2 75 323 1ee6 2 55 309
  1ee7 2 75 309 1ee8 3 55 31b 301 1ee9 3 75 31b 301 1eea 3 55 31b 300 1eeb 3 75 31b 300
  1eec 3 55 31b 309 1eed 3 75 31b 309 1eee 3 55 31b 303 1eef 3 75 31b 303 1ef0 3 55 31b 323
  1ef1 3 75 31b 323 1ef2 2 59 300 1ef3 2 79 300 1ef4 2 59 323 1ef5 2 79 323 1ef6 2 59 309
  1ef7 2 79 309 1ef8 2 59 303 1ef9 2 79 303 1f00 2 3b1 313 1f01 2 3b1 314 1f02 3 3b1 313 300
  1f03 3 3b1 314 300 1f04 3 3b1 313 301 1f05 3 3b1 314 301 1f06 3 3b1 313 342 1f07 3 3b1 314 342
  1f08 2 391 313 1f09 2 391 314 1f0a 3 391 313 300 1f0b 3 391 314 300 1f0c 3 391 313 301
  1f0d 3 391 314 301 1f0e 3 391 313 342 1f0f 3 391 314 342 1f10 2 3b5 313 1f11 2 3b5 314
  1f12 3 3b5 313 300 1f13 3 3b5 314 300 1f14 3 3b5 313 301 1f15 3 3b5 314 301 1f18 2 395 313
  1f19 2 395 314 1f1a 3 395 313 300 1f1b 3 395 314 300 1f1c 3 395 313 301 1f1d 3 395 314 301
  1f20 2 3b7 313 1f21 2 3b7 314 1f22 3 3b7 313 300 1f23 3 3b7 314 300 1f24 3 3b7 313 301
  1f25 3 3b7 314 301 1f26 3 3b7 313 342 1f27 3 3b7 314 342 1f28 2 397 313 1f29 2 397 314
  1f2a 3 397 313 300 1f2b 3 397 314 300 1f2c 3 397 313 301 1f2d 3 397 314 301 1f2e 3 397 313 342
  1f2f 3 397 314 342 1f30 2 3b9 313 1f31 2 3b9 314 1f32 3 3b9 313 300 1f33 3 3b9 314 300
  1f34 3 3b9 313 301 1f35 3 3b9 314 301 1f36 3 3b9 313 342 1f37 3 3b9 314 342 1f38 2 399 313
  1f39 2 399 314 1f3a 3 399 313 300 1f3b 3 399 314 300 1f3c 3 399 313 301 1f3d 3 399 314 301
  1f3e 3 399 313 342 1f3f 3 399 314 342 1f40 2 3bf 313 1f41 2 3bf 314 1f42 3 3bf 313 300
  1f43 3 3bf 314 300 1f44 3 3bf 313 301 1f45 3 3bf 314 301 1f48 2 39f 313 1f49 2 39f 314
  1f4a 3 39f 313 300 1f4b 3 39f 314 300 1f4c 3 39f 313 301 1f4d 3 39f 314 301 1f50 2 3c5 313
  1f51 2 3c5 314 1f52 3 3c5 313 300 1f53 3 3c5 314 300 1f54 3 3c5 313 301 1f55 3 3c5 314 301
  1f56 3 3c5 313 342 1f57 3 3c5 314 342 1f59 2 3a5 314 1f5b 3 3a5 314 300 1f5d 3 3a5 314 301
  1f5f 3 3a5 314 342 1f60 2 3c9 313 1f61 2 3c9 314 1f62 3 3c9 313 300 1f63 3 3c9 314 300
  1f64 3 3c9 313 301 1f65 3 3c9 314 301 1f66 3 3c9 313 342 1f67 3 3c9 314 342 1f68 2 3a9 313
  1f69 2 3a9 314 1f6a 3 3a9 313 300 1f6b 3 3a9 314 300 1f6c 3 3a9 313 301 1f6d 3 3a9 314 301
  1f6e 3 3a9 313 342 1f6f 3 3a9 314 342 1f70 2 3b1 300 1f71 2 3b1 301 1f72 2 3b5 300 1f73 2 3b5 301
  1f74 2 3b7 300 1f75 2 3b7 301 1f76 2 3b9 300 1f77 2 3b9 301 1f78 2 3bf 300 1f79 2 3bf 301
  1f7a 2 3c5 300 1f7b 2 3c5 301 1f7c 2 3c9 300 1f7d 2 3c9 301 1f80 3 3b1 313 345 1f81 3 3b1 314 345
  1f82 4 3b1 313 300 345 1f83 4 3b1 314 300 345 1f84 4 3b1 313 301 345 1f85 4 3b1 314 301 345
  1f86 4 3b1 313 342 345 1f87 4 3b1 314 342 345 1f88 3 391 313 345 1f89 3 391 314 345
  1f8a 4 391 313 300 345 1f8b 4 391 314 300 345 1f8c 4 391 313 301 345 1f8d 4 391 314 301 345
  1f8e 4 391 313 342 345 1f8f 4 391 314 342 345 1f90 3 3b7 313 345 1f91 3 3b7 314 345
  1f92 4 3b7 313 300 345 1f93 4 3b7 314 300 345 1f94 4 3b7 313 301 345 1f95 4 3b7 314 301 345
  1f96 4 3b7 313 342 345 1f97 4 3b7 314 342 345 1f98 3 397 313 345 1f99 3 397 314 345
  1f9a 4 397 313 300 345 1f9b 4 397 314 300 345 1f9c 4 397 313 301 345 1f9d 4 397 314 301 345
  1f9e 4 397 313 342 345 1f9f 4 397 314 342 345 1fa0 3 3c9 313 345 1fa1 3 3c9 314 345
  1fa2 4 3c9 313 300 345 1fa3 4 3c9 314 300 345 1fa4 4 3c9 313 301 345 1fa5 4 3c9 314 301 345
  1fa6 4 3c9 313 342 345 1fa7 4 3c9 314 342 345 1fa8 3 3a9 313 345 1fa9 3 3a9 314 345
  1faa 4 3a9 313 300 345 1fab 4 3a9 314 300 345 1fac 4 3a9 313 301 345 1fad 4 3a9 314 301 345
  1fae 4 3a9 313 342 345 1faf 4 3a9 314 342 345 1fb0 2 3b1 306 1fb1 2 3b1 304 1fb2 3 3b1 300 345
  1fb3 2 3b1 345 1fb4 3 3b1 301 345 1fb6 2 3b1 342 1fb7 3 3b1 342 345 1fb8 2 391 306 1fb9 2 391 304
  1fba 2 391 300 1fbb 2 391 301 1fbc 2 391 345 1fbd 2 20 313 1fbe 1 3b9 1fbf 2 20 313 1fc0 2 20 342
  1fc1 3 20 308 342 1fc2 3 3b7 300 345 1fc3 2 3b7 345 1fc4 3 3b7 301 345 1fc6 2 3b7 342
  1fc7 3 3b7 342 345 1fc8 2 395 300 1fc9 2 395 301 1fca 2 397 300 1fcb 2 397 301 1fcc 2 397 345
  1fcd 3 20 313 300 1fce 3 20 313 301 1fcf 3 20 313 342 1fd0 2 3b9 306 1fd1 2 3b9 304
  1fd2 3 3b9 308 300 1fd3 3 3b9 308 301 1fd6 2 3b9 342 1fd7 3 3b9 308 342 1fd8 2 399 306
  1fd9 2 399 304 1fda 2 399 300 1fdb 2 399 301 1fdd 3 20 314 300 1fde 3 20 314 301
  1fdf 3 20 314 342 1fe0 2 3c5 306 1fe1 2 3c5 304 1fe2 3 3c5 308 300 1fe3 3 3c5 308 301
  1fe4 2 3c1 313 1fe5 2 3c1 314 1fe6 2 3c5 342 1fe7 3 3c5 308 342 1fe8 2 3a5 306 1fe9 2 3a5 304
  1fea 2 3a5 300 1feb 2 3a5 301 1fec 2 3a1 314 1fed 3 20 308 300 1fee 3 20 308 301 1fef 1 60
  1ff2 3 3c9 300 345 1ff3 2 3c9 345 1ff4 3 3c9 301 345 1ff6 2 3c9 342 1ff7 3 3c9 342 345
  1ff8 2 39f 300 1ff9 2 39f 301 1ffa 2 3a9 300 1ffb 2 3a9 301 1ffc 2 3a9 345 1ffd 2 20 301
  1ffe 2 20 314 2000 1 20 2001 1 20 2002 1 20 2003 1 20 2004 1 20 2005 1 20 2006 1 20 2007 1 20
  2008 1 20 2009 1 20 200a 1 20 2011 1 2010 2017 2 20 333 2024 1 2e 2025 2 2e 2e 2026 3 2e 2e 2e
  202f 1 20 2033 2 2032 2032 2034 3 2032 2032 2032 2036 2 2035 2035 2037 3 2035 2035 2035
  203c 2 21 21 203e 2 20 305 2047 2 3f 3f 2048 2 3f 21 2049 2 21 3f 2057 4 2032 2032 2032 2032
  205f 1 20 2070 1 30 2071 1 69 207a 1 2b 207b 1 2212 207c 1 3d 207f 1 6e 208a 1 2b 208b 1 2212
  208c 1 3d 2090 1 61 2091 1 65 2092 1 6f 2093 1 78 2094 1 259 2095 1 68 209a 1 70 209d 1 77
  209e 1 79 209f 1 7a 20a8 2 52 73 2100 3 61 2f 63 2101 3 61 2f 73 2102 1 43 2103 2 b0 43
  2105 3 63 2f 6f 2106 3 63 2f 75 2107 1 190 2109 2 b0 46 210a 1 67 210b 1 48 210c 1 48 210d 1 48
  210e 1 68 210f 1 127 2110 1 49 2111 1 49 2112 1 4c 2113 1 6c 2115 1 4e 2116 2 4e 6f 211c 1 52
  211d 1 52 2120 2 53 4d 2121 3 54 45 4c 2122 2 54 4d 2124 1 5a 2126 1 3a9 2128 1 5a 212a 1 4b
  212b 2 41 30a 212f 1 65 2133 1 4d 2134 1 6f 2139 1 69 213b 3 46 41 58 213c 1 3c0 213d 1 3b3
  213e 1 393 213f 1 3a0 2140 1 2211 2145 1 44 2150 3 31 2044 37 2151 3 31 2044 39
  2152 4 31 2044 31 30 2153 3 31 2044 33 2154 3 32 2044 33 2155 3 31 2044 35 2156 3 32 2044 35
  2157 3 33 2044 35 2158 3 34 2044 35 2159 3 31 2044 36 215a 3 35 2044 36 215b 3 31 2044 38
  215c 3 33 2044 38 215d 3 35 2044 38 215e 3 37 2044 38 215f 2 31 2044 2160 1 49 2161 2 49 49
  2162 3 49 49 49 2163 2 49 56 2164 1 56 2165 2 56 49 2166 3 56 49 49 2167 4 56 49 49 49
  2168 2 49 58 2169 1 58 216a 2 58 49 216b 3 58 49 49 216c 1 4c 216f 1 4d 2170 1 69 2171 2 69 69
  2172 3 69 69 69 2173 2 69 76 2174 1 76 2175 2 76 69 2176 3 76 69 69 2177 4 76 69 69 69
  2178 2 69 78 2179 1 78 217a 2 78 69 217b 3 78 69 69 217c 1 6c 217f 1 6d 2189 3 30 2044 33
  219a 2 2190 338 219b 2 2192 338 21ae 2 2194 338 21cd 2 21d0 338 21ce 2 21d4 338 21cf 2 21d2 338
  2204 2 2203 338 2209 2 2208 338 220c 2 220b 338 2224 2 2223 338 2226 2 2225 338 222c 2 222b 222b
  222d 3 222b 222b 222b 222f 2 222e 222e 2230 3 222e 222e 222e 2241 2 223c 338 2244 2 2243 338
  2247 2 2245 338 2249 2 2248 338 2260 2 3d 338 2262 2 2261 338 226d 2 224d 338 226e 2 3c 338
  226f 2 3e 338 2270 2 2264 338 2271 2 2265 338 2274 2 2272 338 2275 2 2273 338 2278 2 2276 338
  2279 2 2277 338 2280 2 227a 338 2281 2 227b 338 2284 2 2282 338 2285 2 2283 338 2288 2 2286 338
  2289 2 2287 338 22ac 2 22a2 338 22ad 2 22a8 338 22ae 2 22a9 338 22af 2 22ab 338 22e0 2 227c 338
  22e1 2 227d 338 22e2 2 2291 338 22e3 2 2292 338 22ea 2 22b2 338 22eb 2 22b3 338 22ec 2 22b4 338
  22ed 2 22b5 338 2469 2 31 30 246a 2 31 31 246b 2 31 32 246c 2 31 33 246d 2 31 34 246e 2 31 35
  246f 2 31 36 2470 2 31 37 2471 2 31 38 2472 2 31 39 2473 2 32 30 2474 3 28 31 29 2475 3 28 32 29
  2476 3 28 33 29 2477 3 28 34 29 2478 3 28 35 29 2479 3 28 36 29 247a 3 28 37 29 247b 3 28 38 29
  247c 3 28 39 29 247d 4 28 31 30 29 247e 4 28 31 31 29 247f 4 28 31 32 29 2480 4 28 31 33 29
  2481 4 28 31 34 29 2482 4 28 31 35 29 2483 4 28 31 36 29 2484 4 28 31 37 29 2485 4 28 31 38 29
  2486 4 28 31 39 29 2487 4 28 32 30 29 2488 2 31 2e 2489 2 32 2e 248a 2 33 2e 248b 2 34 2e
  248c 2 35 2e 248d 2 36 2e 248e 2 37 2e 248f 2 38 2e 2490 2 39 2e 2491 3 31 30 2e 2492 3 31 31 2e
  2493 3 31 32 2e 2494 3 31 33 2e 2495 3 31 34 2e 2496 3 31 35 2e 2497 3 31 36 2e 2498 3 31 37 2e
  2499 3 31 38 2e 249a 3 31 39 2e 249b 3 32 30 2e 249c 3 28 61 29 249d 3 28 62 29 249e 3 28 63 29
  249f 3 28 64 29 24a0 3 28 65 29 24a1 3 28 66 29 24a2 3 28 67 29 24a3 3 28 68 29 24a4 3 28 69 29
  24a5 3 28 6a 29 24a6 3 28 6b 29 24a7 3 28 6c 29 24a8 3 28 6d 29 24a9 3 28 6e 29 24aa 3 28 6f 29
  24ab 3 28 70 29 24ac 3 28 71 29 24ad 3 28 72 29 24ae 3 28 73 29 24af 3 28 74 29 24b0 3 28 75 29
  24b1 3 28 76 29 24b2 3 28 77 29 24b3 3 28 78 29 24b4 3 28 79 29 24b5 3 28 7a 29 24ea 1 30
  2a0c 4 222b 222b 222b 222b 2a74 3 3a 3a 3d 2a75 2 3d 3d 2a76 3 3d 3d 3d 2adc 2 2add 338 2c7c 1 6a
  2c7d 1 56 2d6f 1 2d61 2e9f 1 6bcd 2ef3 1 9f9f 2f00 1 4e00 2f01 1 4e28 2f02 1 4e36 2f03 1 4e3f
  2f04 1 4e59 2f05 1 4e85 2f06 1 4e8c 2f07 1 4ea0 2f08 1 4eba 2f09 1 513f 2f0a 1 5165 2f0b 1 516b
  2f0c 1 5182 2f0d 1 5196 2f0e 1 51ab 2f0f 1 51e0 2f10 1 51f5 2f11 1 5200 2f12 1 529b 2f13 1 52f9
  2f14 1 5315 2f15 1 531a 2f16 1 5338 2f17 1 5341 2f18 1 535c 2f19 1 5369 2f1a 1 5382 2f1b 1 53b6
  2f1c 1 53c8 2f1d 1 53e3 2f1e 1 56d7 2f1f 1 571f 2f20 1 58eb 2f21 1 5902 2f22 1 590a 2f23 1 5915
  2f24 1 5927 2f25 1 5973 2f26 1 5b50 2f27 1 5b80 2f28 1 5bf8 2f29 1 5c0f 2f2a 1 5c22 2f2b 1 5c38
  2f2c 1 5c6e 2f2d 1 5c71 2f2e 1 5ddb 2f2f 1 5de5 2f30 1 5df1 2f31 1 5dfe 2f32 1 5e72 2f33 1 5e7a
  2f34 1 5e7f 2f35 1 5ef4 2f36 1 5efe 2f37 1 5f0b 2f38 1 5f13 2f39 1 5f50 2f3a 1 5f61 2f3b 1 5f73
  2f3c 1 5fc3 2f3d 1 6208 2f3e 1 6236 2f3f 1 624b 2f40 1 652f 2f41 1 6534 2f42 1 6587 2f43 1 6597
  2f44 1 65a4 2f45 1 65b9 2f46 1 65e0 2f47 1 65e5 2f48 1 66f0 2f49 1 6708 2f4a 1 6728 2f4b 1 6b20
  2f4c 1 6b62 2f4d 1 6b79 2f4e 1 6bb3 2f4f 1 6bcb 2f50 1 6bd4 2f51 1 6bdb 2f52 1 6c0f 2f53 1 6c14
  2f54 1 6c34 2f55 1 706b 2f56 1 722a 2f57 1 7236 2f58 1 723b 2f59 1 723f 2f5a 1 7247 2f5b 1 7259
  2f5c 1 725b 2f5d 1 72ac 2f5e 1 7384 2f5f 1 7389 2f60 1 74dc 2f61 1 74e6 2f62 1 7518 2f63 1 751f
  2f64 1 7528 2f65 1 7530 2f66 1 758b 2f67 1 7592 2f68 1 7676 2f69 1 767d 2f6a 1 76ae 2f6b 1 76bf
  2f6c 1 76ee 2f6d 1 77db 2f6e 1 77e2 2f6f 1 77f3 2f70 1 793a 2f71 1 79b8 2f72 1 79be 2f73 1 7a74
  2f74 1 7acb 2f75 1 7af9 2f76 1 7c73 2f77 1 7cf8 2f78 1 7f36 2f79 1 7f51 2f7a 1 7f8a 2f7b 1 7fbd
  2f7c 1 8001 2f7d 1 800c 2f7e 1 8012 2f7f 1 8033 2f80 1 807f 2f81 1 8089 2f82 1 81e3 2f83 1 81ea
  2f84 1 81f3 2f85 1 81fc 2f86 1 820c 2f87 1 821b 2f88 1 821f 2f89 1 826e 2f8a 1 8272 2f8b 1 8278
  2f8c 1 864d 2f8d 1 866b 2f8e 1 8840 2f8f 1 884c 2f90 1 8863 2f91 1 897e 2f92 1 898b 2f93 1 89d2
  2f94 1 8a00 2f95 1 8c37 2f96 1 8c46 2f97 1 8c55 2f98 1 8c78 2f99 1 8c9d 2f9a 1 8d64 2f9b 1 8d70
  2f9c 1 8db3 2f9d 1 8eab 2f9e 1 8eca 2f9f 1 8f9b 2fa0 1 8fb0 2fa1 1 8fb5 2fa2 1 9091 2fa3 1 9149
  2fa4 1 91c6 2fa5 1 91cc 2fa6 1 91d1 2fa7 1 9577 2fa8 1 9580 2fa9 1 961c 2faa 1 96b6 2fab 1 96b9
  2fac 1 96e8 2fad 1 9751 2fae 1 975e 2faf 1 9762 2fb0 1 9769 2fb1 1 97cb 2fb2 1 97ed 2fb3 1 97f3
  2fb4 1 9801 2fb5 1 98a8 2fb6 1 98db 2fb7 1 98df 2fb8 1 9996 2fb9 1 9999 2fba 1 99ac 2fbb 1 9aa8
  2fbc 1 9ad8 2fbd 1 9adf 2fbe 1 9b25 2fbf 1 9b2f 2fc0 1 9b32 2fc1 1 9b3c 2fc2 1 9b5a 2fc3 1 9ce5
  2fc4 1 9e75 2fc5 1 9e7f 2fc6 1 9ea5 2fc7 1 9ebb 2fc8 1 9ec3 2fc9 1 9ecd 2fca 1 9ed1 2fcb 1 9ef9
  2fcc 1 9efd 2fcd 1 9f0e 2fce 1 9f13 2fcf 1 9f20 2fd0 1 9f3b 2fd1 1 9f4a 2fd2 1 9f52 2fd3 1 9f8d
  2fd4 1 9f9c 2fd5 1 9fa0 3000 1 20 3036 1 3012 3038 1 5341 304c 2 304b 3099 304e 2 304d 3099
  3050 2 304f 3099 3052 2 3051 3099 3054 2 3053 3099 3056 2 3055 3099 3058 2 3057 3099
  305a 2 3059 3099 305c 2 305b 3099 305e 2 305d 3099 3060 2 305f 3099 3062 2 3061 3099
  3065 2 3064 3099 3067 2 3066 3099 3069 2 3068 3099 3070 2 306f 3099 3071 2 306f 309a
  3073 2 3072 3099 3074 2 3072 309a 3076 2 3075 3099 3077 2 3075 309a 3079 2 3078 3099
  307a 2 3078 309a 307c 2 307b 3099 307d 2 307b 309a 3094 2 3046 3099 309b 2 20 3099 309c 2 20 309a
  309e 2 309d 3099 309f 2 3088 308a 30ac 2 30ab 3099 30ae 2 30ad 3099 30b0 2 30af 3099
  30b2 2 30b1 3099 30b4 2 30b3 3099 30b6 2 30b5 3099 30b8 2 30b7 3099 30ba 2 30b9 3099
  30bc 2 30bb 3099 30be 2 30bd 3099 30c0 2 30bf 3099 30c2 2 30c1 3099 30c5 2 30c4 3099
  30c7 2 30c6 3099 30c9 2 30c8 3099 30d0 2 30cf 3099 30d1 2 30cf 309a 30d3 2 30d2 3099
  30d4 2 30d2 309a 30d6 2 30d5 3099 30d7 2 30d5 309a 30d9 2 30d8 3099 30da 2 30d8 309a
  30dc 2 30db 3099 30dd 2 30db 309a 30f4 2 30a6 3099 30f7 2 30ef 3099 30f8 2 30f0 3099
  30f9 2 30f1 3099 30fa 2 30f2 3099 30fe 2 30fd 3099 30ff 2 30b3 30c8 3133 1 11aa 3134 1 1102
  3140 1 111a 3144 1 1121 3164 1 1160 3169 1 11cc 316a 1 11ce 316b 1 11d3 316c 1 11d7 316d 1 11d9
  316e 1 111c 316f 1 11dd 3170 1 11df 3173 1 1120 3176 1 1127 3177 1 1129 317d 1 1132 317e 1 1136
  317f 1 1140 3180 1 1147 3181 1 114c 3189 1 1188 318c 1 1194 318d 1 119e 318e 1 11a1 3192 1 4e00
  3193 1 4e8c 3194 1 4e09 3195 1 56db 3196 1 4e0a 3197 1 4e2d 3198 1 4e0b 3199 1 7532 319a 1 4e59
  319b 1 4e19 319c 1 4e01 319d 1 5929 319e 1 5730 319f 1 4eba 3200 3 28 1100 29 3201 3 28 1102 29
  3202 3 28 1103 29 3203 3 28 1105 29 3204 3 28 1106 29 3205 3 28 1107 29 3206 3 28 1109 29
  3207 3 28 110b 29 3208 3 28 110c 29 3209 3 28 110e 29 320a 3 28 110f 29 320b 3 28 1110 29
  320c 3 28 1111 29 320d 3 28 1112 29 320e 4 28 1100 1161 29 320f 4 28 1102 1161 29
  3210 4 28 1103 1161 29 3211 4 28 1105 1161 29 3212 4 28 1106 1161 29 3213 4 28 1107 1161 29
  3214 4 28 1109 1161 29 3215 4 28 110b 1161 29 3216 4 28 110c 1161 29 3217 4 28 110e 1161 29
  3218 4 28 110f 1161 29 3219 4 28 1110 1161 29 321a 4 28 1111 1161 29 321b 4 28 1112 1161 29
  321c 4 28 110c 116e 29 321d 7 28 110b 1169 110c 1165 11ab 29 321e 6 28 110b 1169 1112 116e 29
  3220 3 28 4e00 29 3221 3 28 4e8c 29 3222 3 28 4e09 29 3223 3 28 56db 29 3224 3 28 4e94 29
  3225 3 28 516d 29 3226 3 28 4e03 29 3227 3 28 516b 29 3228 3 28 4e5d 29 3229 3 28 5341 29
  322a 3 28 6708 29 322b 3 28 706b 29 322c 3 28 6c34 29 322d 3 28 6728 29 322e 3 28 91d1 29
  322f 3 28 571f 29 3230 3 28 65e5 29 3231 3 28 682a 29 3232 3 28 6709 29 3233 3 28 793e 29
  3234 3 28 540d 29 3235 3 28 7279 29 3236 3 28 8ca1 29 3237 3 28 795d 29 3238 3 28 52b4 29
  3239 3 28 4ee3 29 323a 3 28 547c 29 323b 3 28 5b66 29 323c 3 28 76e3 29 323d 3 28 4f01 29
  323e 3 28 8cc7 29 323f 3 28 5354 29 3240 3 28 796d 29 3241 3 28 4f11 29 3242 3 28 81ea 29
  3243 3 28 81f3 29 3244 1 554f 3245 1 5e7c 3246 1 6587 3247 1 7b8f 3250 3 50 54 45 3251 2 32 31
  3252 2 32 32 3253 2 32 33 3254 2 32 34 3255 2 32 35 3256 2 32 36 3257 2 32 37 3258 2 32 38
  3259 2 32 39 325a 2 33 30 325b 2 33 31 325c 2 33 32 325d 2 33 33 325e 2 33 34 325f 2 33 35
  3260 1 1100 3266 1 1109 326e 2 1100 1161 326f 2 1102 1161 3270 2 1103 1161 3271 2 1105 1161
  3272 2 1106 1161 3273 2 1107 1161 3274 2 1109 1161 3275 2 110b 1161 3276 2 110c 1161
  3277 2 110e 1161 3278 2 110f 1161 3279 2 1110 1161 327a 2 1111 1161 327b 2 1112 1161
  327c 5 110e 1161 11b7 1100 1169 327d 4 110c 116e 110b 1174 327e 2 110b 116e 3280 1 4e00
  3281 1 4e8c 3282 1 4e09 3283 1 56db 3284 1 4e94 3285 1 516d 3286 1 4e03 3287 1 516b 3288 1 4e5d
  3289 1 5341 328a 1 6708 328b 1 706b 328c 1 6c34 328d 1 6728 328e 1 91d1 328f 1 571f 3290 1 65e5
  3291 1 682a 3292 1 6709 3293 1 793e 3294 1 540d 3295 1 7279 3296 1 8ca1 3297 1 795d 3298 1 52b4
  3299 1 79d8 329a 1 7537 329b 1 5973 329c 1 9069 329d 1 512a 329e 1 5370 329f 1 6ce8 32a0 1 9805
  32a1 1 4f11 32a2 1 5199 32a3 1 6b63 32a4 1 4e0a 32a5 1 4e2d 32a6 1 4e0b 32a7 1 5de6 32a8 1 53f3
  32a9 1 533b 32aa 1 5b97 32ab 1 5b66 32ac 1 76e3 32ad 1 4f01 32ae 1 8cc7 32af 1 5354 32b0 1 591c
  32b1 2 33 36 32b2 2 33 37 32b3 2 33 38 32b4 2 33 39 32b5 2 34 30 32b6 2 34 31 32b7 2 34 32
  32b8 2 34 33 32b9 2 34 34 32ba 2 34 35 32bb 2 34 36 32bc 2 34 37 32bd 2 34 38 32be 2 34 39
  32bf 2 35 30 32c0 2 31 6708 32c1 2 32 6708 32c2 2 33 6708 32c3 2 34 6708 32c4 2 35 6708
  32c5 2 36 6708 32c6 2 37 6708 32c7 2 38 6708 32c8 2 39 6708 32c9 3 31 30 6708 32ca 3 31 31 6708
  32cb 3 31 32 6708 32cc 2 48 67 32cd 3 65 72 67 32ce 2 65 56 32cf 3 4c 54 44 32d0 1 30a2
  32d1 1 30a4 32d2 1 30a6 32d3 1 30a8 32d6 1 30ad 32d7 1 30af 32d8 1 30b1 32d9 1 30b3 32da 1 30b5
  32db 1 30b7 32dc 1 30b9 32dd 1 30bb 32de 1 30bd 32df 1 30bf 32e0 1 30c1 32e1 1 30c4 32e2 1 30c6
  32e3 1 30c8 32ea 1 30d2 32eb 1 30d5 32ec 1 30d8 32ed 1 30db 32f3 1 30e4 32f4 1 30e6
  32ff 2 4ee4 548c 3300 5 30a2 30cf 309a 30fc 30c8 3301 4 30a2 30eb 30d5 30a1
  3302 5 30a2 30f3 30d8 309a 30a2 3303 3 30a2 30fc 30eb 3304 5 30a4 30cb 30f3 30af 3099
  3305 3 30a4 30f3 30c1 3306 3 30a6 30a9 30f3 3307 6 30a8 30b9 30af 30fc 30c8 3099
  3308 4 30a8 30fc 30ab 30fc 3309 3 30aa 30f3 30b9 330a 3 30aa 30fc 30e0 330b 3 30ab 30a4 30ea
  330c 4 30ab 30e9 30c3 30c8 330d 4 30ab 30ed 30ea 30fc 330e 4 30ab 3099 30ed 30f3
  330f 4 30ab 3099 30f3 30de 3310 4 30ad 3099 30ab 3099 3311 4 30ad 3099 30cb 30fc
  3312 4 30ad 30e5 30ea 30fc 3313 6 30ad 3099 30eb 30bf 3099 30fc 3314 2 30ad 30ed
  3315 6 30ad 30ed 30af 3099 30e9 30e0 3316 6 30ad 30ed 30e1 30fc 30c8 30eb
  3317 5 30ad 30ed 30ef 30c3 30c8 3318 4 30af 3099 30e9 30e0 3319 6 30af 3099 30e9 30e0 30c8 30f3
  331a 6 30af 30eb 30bb 3099 30a4 30ed 331b 4 30af 30ed 30fc 30cd 331c 3 30b1 30fc 30b9
  331d 3 30b3 30eb 30ca 331e 4 30b3 30fc 30db 309a 331f 4 30b5 30a4 30af 30eb
  3320 5 30b5 30f3 30c1 30fc 30e0 3321 5 30b7 30ea 30f3 30af 3099 3322 3 30bb 30f3 30c1
  3323 3 30bb 30f3 30c8 3324 4 30bf 3099 30fc 30b9 3325 3 30c6 3099 30b7 3326 3 30c8 3099 30eb
  3327 2 30c8 30f3 3328 2 30ca 30ce 3329 3 30ce 30c3 30c8 332a 3 30cf 30a4 30c4
  332b 6 30cf 309a 30fc 30bb 30f3 30c8 332c 4 30cf 309a 30fc 30c4 332d 5 30cf 3099 30fc 30ec 30eb
  332e 6 30d2 309a 30a2 30b9 30c8 30eb 332f 4 30d2 309a 30af 30eb 3330 3 30d2 309a 30b3
  3331 3 30d2 3099 30eb 3332 6 30d5 30a1 30e9 30c3 30c8 3099 3333 4 30d5 30a3 30fc 30c8
  3334 6 30d5 3099 30c3 30b7 30a7 30eb 3335 3 30d5 30e9 30f3 3336 5 30d8 30af 30bf 30fc 30eb
  3337 3 30d8 309a 30bd 3338 4 30d8 309a 30cb 30d2 3339 3 30d8 30eb 30c4 333a 4 30d8 309a 30f3 30b9
  333b 5 30d8 309a 30fc 30b7 3099 333c 4 30d8 3099 30fc 30bf 333d 5 30db 309a 30a4 30f3 30c8
  333e 4 30db 3099 30eb 30c8 333f 2 30db 30f3 3340 5 30db 309a 30f3 30c8 3099 3341 3 30db 30fc 30eb
  3342 3 30db 30fc 30f3 3343 4 30de 30a4 30af 30ed 3344 3 30de 30a4 30eb 3345 3 30de 30c3 30cf
  3346 3 30de 30eb 30af 3347 5 30de 30f3 30b7 30e7 30f3 3348 4 30df 30af 30ed 30f3 3349 2 30df 30ea
  334a 6 30df 30ea 30cf 3099 30fc 30eb 334b 3 30e1 30ab 3099 334c 5 30e1 30ab 3099 30c8 30f3
  334d 4 30e1 30fc 30c8 30eb 334e 4 30e4 30fc 30c8 3099 334f 3 30e4 30fc 30eb 3350 3 30e6 30a2 30f3
  3351 4 30ea 30c3 30c8 30eb 3352 2 30ea 30e9 3353 4 30eb 30d2 309a 30fc
  3354 5 30eb 30fc 30d5 3099 30eb 3355 2 30ec 30e0 3356 6 30ec 30f3 30c8 30b1 3099 30f3
  3357 3 30ef 30c3 30c8 3358 2 30 70b9 3359 2 31 70b9 335a 2 32 70b9 335b 2 33 70b9 335c 2 34 70b9
  335d 2 35 70b9 335e 2 36 70b9 335f 2 37 70b9 3360 2 38 70b9 3361 2 39 70b9 3362 3 31 30 70b9
  3363 3 31 31 70b9 3364 3 31 32 70b9 3365 3 31 33 70b9 3366 3 31 34 70b9 3367 3 31 35 70b9
  3368 3 31 36 70b9 3369 3 31 37 70b9 336a 3 31 38 70b9 336b 3 31 39 70b9 336c 3 32 30 70b9
  336d 3 32 31 70b9 336e 3 32 32 70b9 336f 3 32 33 70b9 3370 3 32 34 70b9 3371 3 68 50 61
  3372 2 64 61 3373 2 41 55 3374 3 62 61 72 3375 2 6f 56 3376 2 70 63 3377 2 64 6d 3378 3 64 6d 32
  3379 3 64 6d 33 337a 2 49 55 337b 2 5e73 6210 337c 2 662d 548c 337d 2 5927 6b63 337e 2 660e 6cbb
  337f 4 682a 5f0f 4f1a 793e 3380 2 70 41 3381 2 6e 41 3382 2 3bc 41 3383 2 6d 41 3384 2 6b 41
  3385 2 4b 42 3386 2 4d 42 3387 2 47 42 3388 3 63 61 6c 3389 4 6b 63 61 6c 338a 2 70 46
  338b 2 6e 46 338c 2 3bc 46 338d 2 3bc 67 338e 2 6d 67 338f 2 6b 67 3390 2 48 7a 3391 3 6b 48 7a
  3392 3 4d 48 7a 3393 3 47 48 7a 3394 3 54 48 7a 3395 2 3bc 6c 3396 2 6d 6c 3397 2 64 6c
  3398 2 6b 6c 3399 2 66 6d 339a 2 6e 6d 339b 2 3bc 6d 339c 2 6d 6d 339d 2 63 6d 339e 2 6b 6d
  339f 3 6d 6d 32 33a0 3 63 6d 32 33a1 2 6d 32 33a2 3 6b 6d 32 33a3 3 6d 6d 33 33a4 3 63 6d 33
  33a5 2 6d 33 33a6 3 6b 6d 33 33a7 3 6d 2215 73 33a8 4 6d 2215 73 32 33a9 2 50 61 33aa 3 6b 50 61
  33ab 3 4d 50 61 33ac 3 47 50 61 33ad 3 72 61 64 33ae 5 72 61 64 2215 73
  33af 6 72 61 64 2215 73 32 33b0 2 70 73 33b1 2 6e 73 33b2 2 3bc 73 33b3 2 6d 73 33b4 2 70 56
  33b5 2 6e 56 33b6 2 3bc 56 33b7 2 6d 56 33b8 2 6b 56 33b9 2 4d 56 33ba 2 70 57 33bb 2 6e 57
  33bc 2 3bc 57 33bd 2 6d 57 33be 2 6b 57 33bf 2 4d 57 33c0 2 6b 3a9 33c1 2 4d 3a9
  33c2 4 61 2e 6d 2e 33c3 2 42 71 33c4 2 63 63 33c5 2 63 64 33c6 4 43 2215 6b 67 33c7 3 43 6f 2e
  33c8 2 64 42 33c9 2 47 79 33ca 2 68 61 33cb 2 48 50 33cc 2 69 6e 33cd 2 4b 4b 33ce 2 4b 4d
  33cf 2 6b 74 33d0 2 6c 6d 33d1 2 6c 6e 33d2 3 6c 6f 67 33d3 2 6c 78 33d4 2 6d 62 33d5 3 6d 69 6c
  33d6 3 6d 6f 6c 33d7 2 50 48 33d8 4 70 2e 6d 2e 33d9 3 50 50 4d 33da 2 50 52 33db 2 73 72
  33dc 2 53 76 33dd 2 57 62 33de 3 56 2215 6d 33df 3 41 2215 6d 33e0 2 31 65e5 33e1 2 32 65e5
  33e2 2 33 65e5 33e3 2 34 65e5 33e4 2 35 65e5 33e5 2 36 65e5 33e6 2 37 65e5 33e7 2 38 65e5
  33e8 2 39 65e5 33e9 3 31 30 65e5 33ea 3 31 31 65e5 33eb 3 31 32 65e5 33ec 3 31 33 65e5
  33ed 3 31 34 65e5 33ee 3 31 35 65e5 33ef 3 31 36 65e5 33f0 3 31 37 65e5 33f1 3 31 38 65e5
  33f2 3 31 39 65e5 33f3 3 32 30 65e5 33f4 3 32 31 65e5 33f5 3 32 32 65e5 33f6 3 32 33 65e5
  33f7 3 32 34 65e5 33f8 3 32 35 65e5 33f9 3 32 36 65e5 33fa 3 32 37 65e5 33fb 3 32 38 65e5
  33fc 3 32 39 65e5 33fd 3 33 30 65e5 33fe 3 33 31 65e5 33ff 3 67 61 6c a69c 1 44a a69d 1 44c
  a770 1 a76f a7f1 1 53 a7f2 1 43 a7f3 1 46 a7f4 1 51 a7f8 1 126 a7f9 1 153 ab5c 1 a727 ab5d 1 ab37
  ab5e 1 26b ab5f 1 ab52 ab69 1 28d f900 1 8c48 f901 1 66f4 f902 1 8eca f903 1 8cc8 f904 1 6ed1
  f905 1 4e32 f906 1 53e5 f907 1 9f9c f908 1 9f9c f909 1 5951 f90a 1 91d1 f90b 1 5587 f90c 1 5948
  f90d 1 61f6 f90e 1 7669 f90f 1 7f85 f910 1 863f f911 1 87ba f912 1 88f8 f913 1 908f f914 1 6a02
  f915 1 6d1b f916 1 70d9 f917 1 73de f918 1 843d f919 1 916a f91a 1 99f1 f91b 1 4e82 f91c 1 5375
  f91d 1 6b04 f91e 1 721b f91f 1 862d f920 1 9e1e f921 1 5d50 f922 1 6feb f923 1 85cd f924 1 8964
  f925 1 62c9 f926 1 81d8 f927 1 881f f928 1 5eca f929 1 6717 f92a 1 6d6a f92b 1 72fc f92c 1 90ce
  f92d 1 4f86 f92e 1 51b7 f92f 1 52de f930 1 64c4 f931 1 6ad3 f932 1 7210 f933 1 76e7 f934 1 8001
  f935 1 8606 f936 1 865c f937 1 8def f938 1 9732 f939 1 9b6f f93a 1 9dfa f93b 1 788c f93c 1 797f
  f93d 1 7da0 f93e 1 83c9 f93f 1 9304 f940 1 9e7f f941 1 8ad6 f942 1 58df f943 1 5f04 f944 1 7c60
  f945 1 807e f946 1 7262 f947 1 78ca f948 1 8cc2 f949 1 96f7 f94a 1 58d8 f94b 1 5c62 f94c 1 6a13
  f94d 1 6dda f94e 1 6f0f f94f 1 7d2f f950 1 7e37 f951 1 964b f952 1 52d2 f953 1 808b f954 1 51dc
  f955 1 51cc f956 1 7a1c f957 1 7dbe f958 1 83f1 f959 1 9675 f95a 1 8b80 f95b 1 62cf f95c 1 6a02
  f95d 1 8afe f95e 1 4e39 f95f 1 5be7 f960 1 6012 f961 1 7387 f962 1 7570 f963 1 5317 f964 1 78fb
  f965 1 4fbf f966 1 5fa9 f967 1 4e0d f968 1 6ccc f969 1 6578 f96a 1 7d22 f96b 1 53c3 f96c 1 585e
  f96d 1 7701 f96e 1 8449 f96f 1 8aaa f970 1 6bba f971 1 8fb0 f972 1 6c88 f973 1 62fe f974 1 82e5
  f975 1 63a0 f976 1 7565 f977 1 4eae f978 1 5169 f979 1 51c9 f97a 1 6881 f97b 1 7ce7 f97c 1 826f
  f97d 1 8ad2 f97e 1 91cf f97f 1 52f5 f980 1 5442 f981 1 5973 f982 1 5eec f983 1 65c5 f984 1 6ffe
  f985 1 792a f986 1 95ad f987 1 9a6a f988 1 9e97 f989 1 9ece f98a 1 529b f98b 1 66c6 f98c 1 6b77
  f98d 1 8f62 f98e 1 5e74 f98f 1 6190 f990 1 6200 f991 1 649a f992 1 6f23 f993 1 7149 f994 1 7489
  f995 1 79ca f996 1 7df4 f997 1 806f f998 1 8f26 f999 1 84ee f99a 1 9023 f99b 1 934a f99c 1 5217
  f99d 1 52a3 f99e 1 54bd f99f 1 70c8 f9a0 1 88c2 f9a1 1 8aaa f9a2 1 5ec9 f9a3 1 5ff5 f9a4 1 637b
  f9a5 1 6bae f9a6 1 7c3e f9a7 1 7375 f9a8 1 4ee4 f9a9 1 56f9 f9aa 1 5be7 f9ab 1 5dba f9ac 1 601c
  f9ad 1 73b2 f9ae 1 7469 f9af 1 7f9a f9b0 1 8046 f9b1 1 9234 f9b2 1 96f6 f9b3 1 9748 f9b4 1 9818
  f9b5 1 4f8b f9b6 1 79ae f9b7 1 91b4 f9b8 1 96b8 f9b9 1 60e1 f9ba 1 4e86 f9bb 1 50da f9bc 1 5bee
  f9bd 1 5c3f f9be 1 6599 f9bf 1 6a02 f9c0 1 71ce f9c1 1 7642 f9c2 1 84fc f9c3 1 907c f9c4 1 9f8d
  f9c5 1 6688 f9c6 1 962e f9c7 1 5289 f9c8 1 677b f9c9 1 67f3 f9ca 1 6d41 f9cb 1 6e9c f9cc 1 7409
  f9cd 1 7559 f9ce 1 786b f9cf 1 7d10 f9d0 1 985e f9d1 1 516d f9d2 1 622e f9d3 1 9678 f9d4 1 502b
  f9d5 1 5d19 f9d6 1 6dea f9d7 1 8f2a f9d8 1 5f8b f9d9 1 6144 f9da 1 6817 f9db 1 7387 f9dc 1 9686
  f9dd 1 5229 f9de 1 540f f9df 1 5c65 f9e0 1 6613 f9e1 1 674e f9e2 1 68a8 f9e3 1 6ce5 f9e4 1 7406
  f9e5 1 75e2 f9e6 1 7f79 f9e7 1 88cf f9e8 1 88e1 f9e9 1 91cc f9ea 1 96e2 f9eb 1 533f f9ec 1 6eba
  f9ed 1 541d f9ee 1 71d0 f9ef 1 7498 f9f0 1 85fa f9f1 1 96a3 f9f2 1 9c57 f9f3 1 9e9f f9f4 1 6797
  f9f5 1 6dcb f9f6 1 81e8 f9f7 1 7acb f9f8 1 7b20 f9f9 1 7c92 f9fa 1 72c0 f9fb 1 7099 f9fc 1 8b58
  f9fd 1 4ec0 f9fe 1 8336 f9ff 1 523a fa00 1 5207 fa01 1 5ea6 fa02 1 62d3 fa03 1 7cd6 fa04 1 5b85
  fa05 1 6d1e fa06 1 66b4 fa07 1 8f3b fa08 1 884c fa09 1 964d fa0a 1 898b fa0b 1 5ed3 fa0c 1 5140
  fa0d 1 55c0 fa10 1 585a fa12 1 6674 fa15 1 51de fa16 1 732a fa17 1 76ca fa18 1 793c fa19 1 795e
  fa1a 1 7965 fa1b 1 798f fa1c 1 9756 fa1d 1 7cbe fa1e 1 7fbd fa20 1 8612 fa22 1 8af8 fa25 1 9038
  fa26 1 90fd fa2a 1 98ef fa2b 1 98fc fa2c 1 9928 fa2d 1 9db4 fa2e 1 90de fa2f 1 96b7 fa30 1 4fae
  fa31 1 50e7 fa32 1 514d fa33 1 52c9 fa34 1 52e4 fa35 1 5351 fa36 1 559d fa37 1 5606 fa38 1 5668
  fa39 1 5840 fa3a 1 58a8 fa3b 1 5c64 fa3c 1 5c6e fa3d 1 6094 fa3e 1 6168 fa3f 1 618e fa40 1 61f2
  fa41 1 654f fa42 1 65e2 fa43 1 6691 fa44 1 6885 fa45 1 6d77 fa46 1 6e1a fa47 1 6f22 fa48 1 716e
  fa49 1 722b fa4a 1 7422 fa4b 1 7891 fa4c 1 793e fa4d 1 7949 fa4e 1 7948 fa4f 1 7950 fa50 1 7956
  fa51 1 795d fa54 1 7a40 fa55 1 7a81 fa56 1 7bc0 fa57 1 7df4 fa58 1 7e09 fa59 1 7e41 fa5a 1 7f72
  fa5b 1 8005 fa5c 1 81ed fa5d 1 8279 fa5e 1 8279 fa5f 1 8457 fa60 1 8910 fa61 1 8996 fa62 1 8b01
  fa63 1 8b39 fa64 1 8cd3 fa65 1 8d08 fa66 1 8fb6 fa67 1 9038 fa68 1 96e3 fa69 1 97ff fa6a 1 983b
  fa6b 1 6075 fa6c 1 242ee fa6d 1 8218 fa70 1 4e26 fa71 1 51b5 fa72 1 5168 fa73 1 4f80 fa74 1 5145
  fa75 1 5180 fa76 1 52c7 fa77 1 52fa fa78 1 559d fa79 1 5555 fa7a 1 5599 fa7b 1 55e2 fa7c 1 585a
  fa7d 1 58b3 fa7e 1 5944 fa7f 1 5954 fa80 1 5a62 fa81 1 5b28 fa82 1 5ed2 fa83 1 5ed9 fa84 1 5f69
  fa85 1 5fad fa86 1 60d8 fa87 1 614e fa88 1 6108 fa89 1 618e fa8a 1 6160 fa8b 1 61f2 fa8c 1 6234
  fa8d 1 63c4 fa8e 1 641c fa8f 1 6452 fa90 1 6556 fa91 1 6674 fa92 1 6717 fa93 1 671b fa94 1 6756
  fa95 1 6b79 fa96 1 6bba fa97 1 6d41 fa98 1 6edb fa99 1 6ecb fa9a 1 6f22 fa9b 1 701e fa9c 1 716e
  fa9d 1 77a7 fa9e 1 7235 fa9f 1 72af faa0 1 732a faa1 1 7471 faa2 1 7506 faa3 1 753b faa4 1 761d
  faa5 1 761f faa6 1 76ca faa7 1 76db faa8 1 76f4 faa9 1 774a faaa 1 7740 faab 1 78cc faac 1 7ab1
  faad 1 7bc0 faae 1 7c7b faaf 1 7d5b fab0 1 7df4 fab1 1 7f3e fab2 1 8005 fab3 1 8352 fab4 1 83ef
  fab5 1 8779 fab6 1 8941 fab7 1 8986 fab8 1 8996 fab9 1 8abf faba 1 8af8 fabb 1 8acb fabc 1 8b01
  fabd 1 8afe fabe 1 8aed fabf 1 8b39 fac0 1 8b8a fac1 1 8d08 fac2 1 8f38 fac3 1 9072 fac4 1 9199
  fac5 1 9276 fac6 1 967c fac7 1 96e3 fac8 1 9756 fac9 1 97db faca 1 97ff facb 1 980b facc 1 983b
  facd 1 9b12 face 1 9f9c facf 1 2284a fad0 1 22844 fad1 1 233d5 fad2 1 3b9d fad3 1 4018
  fad4 1 4039 fad5 1 25249 fad6 1 25cd0 fad7 1 27ed3 fad8 1 9f43 fad9 1 9f8e fb00 2 66 66
  fb01 2 66 69 fb02 2 66 6c fb03 3 66 66 69 fb04 3 66 66 6c fb05 2 73 74 fb06 2 73 74
  fb13 2 574 576 fb14 2 574 565 fb15 2 574 56b fb16 2 57e 576 fb17 2 574 56d fb1d 2 5d9 5b4
  fb1f 2 5f2 5b7 fb20 1 5e2 fb21 1 5d0 fb27 1 5e8 fb28 1 5ea fb29 1 2b fb2a 2 5e9 5c1
  fb2b 2 5e9 5c2 fb2c 3 5e9 5bc 5c1 fb2d 3 5e9 5bc 5c2 fb2e 2 5d0 5b7 fb2f 2 5d0 5b8 fb30 2 5d0 5bc
  fb31 2 5d1 5bc fb32 2 5d2 5bc fb33 2 5d3 5bc fb34 2 5d4 5bc fb35 2 5d5 5bc fb36 2 5d6 5bc
  fb38 2 5d8 5bc fb39 2 5d9 5bc fb3a 2 5da 5bc fb3b 2 5db 5bc fb3c 2 5dc 5bc fb3e 2 5de 5bc
  fb40 2 5e0 5bc fb41 2 5e1 5bc fb43 2 5e3 5bc fb44 2 5e4 5bc fb46 2 5e6 5bc fb47 2 5e7 5bc
  fb48 2 5e8 5bc fb49 2 5e9 5bc fb4a 2 5ea 5bc fb4b 2 5d5 5b9 fb4c 2 5d1 5bf fb4d 2 5db 5bf
  fb4e 2 5e4 5bf fb4f 2 5d0 5dc fb50 1 671 fb51 1 671 fb52 1 67b fb53 1 67b fb54 1 67b fb55 1 67b
  fb56 1 67e fb57 1 67e fb58 1 67e fb59 1 67e fb5a 1 680 fb5b 1 680 fb5c 1 680 fb5d 1 680
  fb5e 1 67a fb5f 1 67a fb60 1 67a fb61 1 67a fb62 1 67f fb63 1 67f fb64 1 67f fb65 1 67f
  fb66 1 679 fb67 1 679 fb68 1 679 fb69 1 679 fb6a 1 6a4 fb6b 1 6a4 fb6c 1 6a4 fb6d 1 6a4
  fb6e 1 6a6 fb6f 1 6a6 fb70 1 6a6 fb71 1 6a6 fb72 1 684 fb73 1 684 fb74 1 684 fb75 1 684
  fb76 1 683 fb77 1 683 fb78 1 683 fb79 1 683 fb7a 1 686 fb7b 1 686 fb7c 1 686 fb7f 1 687
  fb80 1 687 fb81 1 687 fb82 1 68d fb83 1 68d fb84 1 68c fb85 1 68c fb86 1 68e fb87 1 68e
  fb88 1 688 fb89 1 688 fb8a 1 698 fb8b 1 698 fb8c 1 691 fb8d 1 691 fb8e 1 6a9 fb8f 1 6a9
  fb90 1 6a9 fb91 1 6a9 fb92 1 6af fb93 1 6af fb94 1 6af fb95 1 6af fb96 1 6b3 fb97 1 6b3
  fb98 1 6b3 fb99 1 6b3 fb9a 1 6b1 fb9b 1 6b1 fb9c 1 6b1 fb9d 1 6b1 fb9e 1 6ba fba1 1 6bb
  fba2 1 6bb fba3 1 6bb fba4 2 6d5 654 fba5 2 6d5 654 fba6 1 6c1 fba7 1 6c1 fba8 1 6c1 fba9 1 6c1
  fbaa 1 6be fbab 1 6be fbac 1 6be fbad 1 6be fbae 1 6d2 fbaf 1 6d2 fbb0 2 6d2 654 fbb1 2 6d2 654
  fbd3 1 6ad fbd4 1 6ad fbd5 1 6ad fbd6 1 6ad fbd7 1 6c7 fbd8 1 6c7 fbd9 1 6c6 fbda 1 6c6
  fbdb 1 6c8 fbdc 1 6c8 fbdd 2 6c7 674 fbde 1 6cb fbdf 1 6cb fbe0 1 6c5 fbe1 1 6c5 fbe2 1 6c9
  fbe3 1 6c9 fbe4 1 6d0 fbe5 1 6d0 fbe6 1 6d0 fbe7 1 6d0 fbe8 1 649 fbe9 1 649 fbea 3 64a 654 627
  fbeb 3 64a 654 627 fbec 3 64a 654 6d5 fbed 3 64a 654 6d5 fbee 3 64a 654 648 fbef 3 64a 654 648
  fbf0 3 64a 654 6c7 fbf1 3 64a 654 6c7 fbf2 3 64a 654 6c6 fbf3 3 64a 654 6c6 fbf4 3 64a 654 6c8
  fbf5 3 64a 654 6c8 fbf6 3 64a 654 6d0 fbf7 3 64a 654 6d0 fbf8 3 64a 654 6d0 fbf9 3 64a 654 649
  fbfa 3 64a 654 649 fbfb 3 64a 654 649 fbfc 1 6cc fbfd 1 6cc fbfe 1 6cc fbff 1 6cc
  fc00 3 64a 654 62c fc01 3 64a 654 62d fc02 3 64a 654 645 fc03 3 64a 654 649 fc04 3 64a 654 64a
  fc05 2 628 62c fc06 2 628 62d fc07 2 628 62e fc08 2 628 645 fc09 2 628 649 fc0a 2 628 64a
  fc0b 2 62a 62c fc0c 2 62a 62d fc0d 2 62a 62e fc0e 2 62a 645 fc0f 2 62a 649 fc10 2 62a 64a
  fc11 2 62b 62c fc12 2 62b 645 fc13 2 62b 649 fc14 2 62b 64a fc15 2 62c 62d fc16 2 62c 645
  fc17 2 62d 62c fc18 2 62d 645 fc19 2 62e 62c fc1a 2 62e 62d fc1b 2 62e 645 fc1c 2 633 62c
  fc1d 2 633 62d fc1e 2 633 62e fc1f 2 633 645 fc20 2 635 62d fc21 2 635 645 fc22 2 636 62c
  fc23 2 636 62d fc24 2 636 62e fc25 2 636 645 fc26 2 637 62d fc27 2 637 645 fc28 2 638 645
  fc29 2 639 62c fc2a 2 639 645 fc2b 2 63a 62c fc2c 2 63a 645 fc2d 2 641 62c fc2e 2 641 62d
  fc2f 2 641 62e fc30 2 641 645 fc31 2 641 649 fc32 2 641 64a fc33 2 642 62d fc34 2 642 645
  fc35 2 642 649 fc36 2 642 64a fc37 2 643 627 fc38 2 643 62c fc39 2 643 62d fc3a 2 643 62e
  fc3b 2 643 644 fc3c 2 643 645 fc3d 2 643 649 fc3e 2 643 64a fc3f 2 644 62c fc40 2 644 62d
  fc41 2 644 62e fc42 2 644 645 fc43 2 644 649 fc44 2 644 64a fc45 2 645 62c fc46 2 645 62d
  fc47 2 645 62e fc48 2 645 645 fc49 2 645 649 fc4a 2 645 64a fc4b 2 646 62c fc4c 2 646 62d
  fc4d 2 646 62e fc4e 2 646 645 fc4f 2 646 649 fc50 2 646 64a fc51 2 647 62c fc52 2 647 645
  fc53 2 647 649 fc54 2 647 64a fc55 2 64a 62c fc56 2 64a 62d fc57 2 64a 62e fc58 2 64a 645
  fc59 2 64a 649 fc5a 2 64a 64a fc5b 2 630 670 fc5c 2 631 670 fc5d 2 649 670 fc5e 3 20 64c 651
  fc5f 3 20 64d 651 fc60 3 20 64e 651 fc61 3 20 64f 651 fc62 3 20 650 651 fc63 3 20 651 670
  fc64 3 64a 654 631 fc65 3 64a 654 632 fc66 3 64a 654 645 fc67 3 64a 654 646 fc68 3 64a 654 649
  fc69 3 64a 654 64a fc6a 2 628 631 fc6b 2 628 632 fc6c 2 628 645 fc6d 2 628 646 fc6e 2 628 649
  fc6f 2 628 64a fc70 2 62a 631 fc71 2 62a 632 fc72 2 62a 645 fc73 2 62a 646 fc74 2 62a 649
  fc75 2 62a 64a fc76 2 62b 631 fc77 2 62b 632 fc78 2 62b 645 fc79 2 62b 646 fc7a 2 62b 649
  fc7b 2 62b 64a fc7c 2 641 649 fc7d 2 641 64a fc7e 2 642 649 fc7f 2 642 64a fc80 2 643 627
  fc81 2 643 644 fc82 2 643 645 fc83 2 643 649 fc84 2 643 64a fc85 2 644 645 fc86 2 644 649
  fc87 2 644 64a fc88 2 645 627 fc89 2 645 645 fc8a 2 646 631 fc8b 2 646 632 fc8c 2 646 645
  fc8d 2 646 646 fc8e 2 646 649 fc8f 2 646 64a fc90 2 649 670 fc91 2 64a 631 fc92 2 64a 632
  fc93 2 64a 645 fc94 2 64a 646 fc95 2 64a 649 fc96 2 64a 64a fc97 3 64a 654 62c fc98 3 64a 654 62d
  fc99 3 64a 654 62e fc9a 3 64a 654 645 fc9b 3 64a 654 647 fc9c 2 628 62c fc9d 2 628 62d
  fc9e 2 628 62e fc9f 2 628 645 fca0 2 628 647 fca1 2 62a 62c fca2 2 62a 62d fca3 2 62a 62e
  fca4 2 62a 645 fca5 2 62a 647 fca6 2 62b 645 fca7 2 62c 62d fca8 2 62c 645 fca9 2 62d 62c
  fcaa 2 62d 645 fcab 2 62e 62c fcac 2 62e 645 fcad 2 633 62c fcae 2 633 62d fcaf 2 633 62e
  fcb0 2 633 645 fcb1 2 635 62d fcb2 2 635 62e fcb3 2 635 645 fcb4 2 636 62c fcb5 2 636 62d
  fcb6 2 636 62e fcb7 2 636 645 fcb8 2 637 62d fcb9 2 638 645 fcba 2 639 62c fcbb 2 639 645
  fcbc 2 63a 62c fcbd 2 63a 645 fcbe 2 641 62c fcbf 2 641 62d fcc0 2 641 62e fcc1 2 641 645
  fcc2 2 642 62d fcc3 2 642 645 fcc4 2 643 62c fcc5 2 643 62d fcc6 2 643 62e fcc7 2 643 644
  fcc8 2 643 645 fcc9 2 644 62c fcca 2 644 62d fccb 2 644 62e fccc 2 644 645 fccd 2 644 647
  fcce 2 645 62c fccf 2 645 62d fcd0 2 645 62e fcd1 2 645 645 fcd2 2 646 62c fcd3 2 646 62d
  fcd4 2 646 62e fcd5 2 646 645 fcd6 2 646 647 fcd7 2 647 62c fcd8 2 647 645 fcd9 2 647 670
  fcda 2 64a 62c fcdb 2 64a 62d fcdc 2 64a 62e fcdd 2 64a 645 fcde 2 64a 647 fcdf 3 64a 654 645
  fce0 3 64a 654 647 fce1 2 628 645 fce2 2 628 647 fce3 2 62a 645 fce4 2 62a 647 fce5 2 62b 645
  fce6 2 62b 647 fce7 2 633 645 fce8 2 633 647 fce9 2 634 645 fcea 2 634 647 fceb 2 643 644
  fcec 2 643 645 fced 2 644 645 fcee 2 646 645 fcef 2 646 647 fcf0 2 64a 645 fcf1 2 64a 647
  fcf2 3 640 64e 651 fcf3 3 640 64f 651 fcf4 3 640 650 651 fcf5 2 637 649 fcf6 2 637 64a
  fcf7 2 639 649 fcf8 2 639 64a fcf9 2 63a 649 fcfa 2 63a 64a fcfb 2 633 649 fcfc 2 633 64a
  fcfd 2 634 649 fcfe 2 634 64a fcff 2 62d 649 fd00 2 62d 64a fd01 2 62c 649 fd02 2 62c 64a
  fd03 2 62e 649 fd04 2 62e 64a fd05 2 635 649 fd06 2 635 64a fd07 2 636 649 fd08 2 636 64a
  fd09 2 634 62c fd0a 2 634 62d fd0b 2 634 62e fd0c 2 634 645 fd0d 2 634 631 fd0e 2 633 631
  fd0f 2 635 631 fd10 2 636 631 fd11 2 637 649 fd12 2 637 64a fd13 2 639 649 fd14 2 639 64a
  fd15 2 63a 649 fd16 2 63a 64a fd17 2 633 649 fd18 2 633 64a fd19 2 634 649 fd1a 2 634 64a
  fd1b 2 62d 649 fd1c 2 62d 64a fd1d 2 62c 649 fd1e 2 62c 64a fd1f 2 62e 649 fd20 2 62e 64a
  fd21 2 635 649 fd22 2 635 64a fd23 2 636 649 fd24 2 636 64a fd25 2 634 62c fd26 2 634 62d
  fd27 2 634 62e fd28 2 634 645 fd29 2 634 631 fd2a 2 633 631 fd2b 2 635 631 fd2c 2 636 631
  fd2d 2 634 62c fd2e 2 634 62d fd2f 2 634 62e fd30 2 634 645 fd31 2 633 647 fd32 2 634 647
  fd33 2 637 645 fd34 2 633 62c fd35 2 633 62d fd36 2 633 62e fd37 2 634 62c fd38 2 634 62d
  fd39 2 634 62e fd3a 2 637 645 fd3b 2 638 645 fd3c 2 627 64b fd3d 2 627 64b fd50 3 62a 62c 645
  fd51 3 62a 62d 62c fd52 3 62a 62d 62c fd53 3 62a 62d 645 fd54 3 62a 62e 645 fd55 3 62a 645 62c
  fd56 3 62a 645 62d fd57 3 62a 645 62e fd58 3 62c 645 62d fd59 3 62c 645 62d fd5a 3 62d 645 64a
  fd5b 3 62d 645 649 fd5c 3 633 62d 62c fd5d 3 633 62c 62d fd5e 3 633 62c 649 fd5f 3 633 645 62d
  fd60 3 633 645 62d fd61 3 633 645 62c fd62 3 633 645 645 fd63 3 633 645 645 fd64 3 635 62d 62d
  fd65 3 635 62d 62d fd66 3 635 645 645 fd67 3 634 62d 645 fd68 3 634 62d 645 fd69 3 634 62c 64a
  fd6a 3 634 645 62e fd6b 3 634 645 62e fd6c 3 634 645 645 fd6d 3 634 645 645 fd6e 3 636 62d 649
  fd6f 3 636 62e 645 fd70 3 636 62e 645 fd71 3 637 645 62d fd72 3 637 645 62d fd73 3 637 645 645
  fd74 3 637 645 64a fd75 3 639 62c 645 fd76 3 639 645 645 fd77 3 639 645 645 fd78 3 639 645 649
  fd79 3 63a 645 645 fd7a 3 63a 645 64a fd7b 3 63a 645 649 fd7c 3 641 62e 645 fd7d 3 641 62e 645
  fd7e 3 642 645 62d fd7f 3 642 645 645 fd80 3 644 62d 645 fd81 3 644 62d 64a fd82 3 644 62d 649
  fd83 3 644 62c 62c fd84 3 644 62c 62c fd85 3 644 62e 645 fd86 3 644 62e 645 fd87 3 644 645 62d
  fd88 3 644 645 62d fd89 3 645 62d 62c fd8a 3 645 62d 645 fd8b 3 645 62d 64a fd8c 3 645 62c 62d
  fd8d 3 645 62c 645 fd8e 3 645 62e 62c fd8f 3 645 62e 645 fd92 3 645 62c 62e fd93 3 647 645 62c
  fd94 3 647 645 645 fd95 3 646 62d 645 fd96 3 646 62d 649 fd97 3 646 62c 645 fd98 3 646 62c 645
  fd99 3 646 62c 649 fd9a 3 646 645 64a fd9b 3 646 645 649 fd9c 3 64a 645 645 fd9d 3 64a 645 645
  fd9e 3 628 62e 64a fd9f 3 62a 62c 64a fda0 3 62a 62c 649 fda1 3 62a 62e 64a fda2 3 62a 62e 649
  fda3 3 62a 645 64a fda4 3 62a 645 649 fda5 3 62c 645 64a fda6 3 62c 62d 649 fda7 3 62c 645 649
  fda8 3 633 62e 649 fda9 3 635 62d 64a fdaa 3 634 62d 64a fdab 3 636 62d 64a fdac 3 644 62c 64a
  fdad 3 644 645 64a fdae 3 64a 62d 64a fdaf 3 64a 62c 64a fdb0 3 64a 645 64a fdb1 3 645 645 64a
  fdb2 3 642 645 64a fdb3 3 646 62d 64a fdb4 3 642 645 62d fdb5 3 644 62d 645 fdb6 3 639 645 64a
  fdb7 3 643 645 64a fdb8 3 646 62c 62d fdb9 3 645 62e 64a fdba 3 644 62c 645 fdbb 3 643 645 645
  fdbc 3 644 62c 645 fdbd 3 646 62c 62d fdbe 3 62c 62d 64a fdbf 3 62d 62c 64a fdc0 3 645 62c 64a
  fdc1 3 641 645 64a fdc2 3 628 62d 64a fdc3 3 643 645 645 fdc4 3 639 62c 645 fdc5 3 635 645 645
  fdc6 3 633 62e 64a fdc7 3 646 62c 64a fdf0 3 635 644 6d2 fdf1 3 642 644 6d2
  fdf2 4 627 644 644 647 fdf3 4 627 643 628 631 fdf4 4 645 62d 645 62f fdf5 4 635 644 639 645
  fdf6 4 631 633 648 644 fdf7 4 639 644 64a 647 fdf8 4 648 633 644 645 fdf9 3 635 644 649
  fdfa 12 635 644 649 20 627 644 644 647 20 639 644 64a 647 20 648 633 644 645
  fdfb 8 62c 644 20 62c 644 627 644 647 fdfc 4 631 6cc 627 644 fe10 1 2c fe15 1 21 fe16 1 3f
  fe19 3 2e 2e 2e fe30 2 2e 2e fe31 1 2014 fe32 1 2013 fe33 1 5f fe34 1 5f fe37 1 7b fe38 1 7d
  fe47 1 5b fe48 1 5d fe49 2 20 305 fe4a 2 20 305 fe4b 2 20 305 fe4c 2 20 305 fe4d 1 5f fe4e 1 5f
  fe4f 1 5f fe50 1 2c fe51 1 3001 fe52 1 2e fe54 1 3b fe55 1 3a fe56 1 3f fe57 1 21 fe58 1 2014
  fe5b 1 7b fe5c 1 7d fe5f 1 23 fe60 1 26 fe63 1 2d fe64 1 3c fe65 1 3e fe66 1 3d fe68 1 5c
  fe6b 1 40 fe70 2 20 64b fe71 2 640 64b fe72 2 20 64c fe74 2 20 64d fe76 2 20 64e fe77 2 640 64e
  fe78 2 20 64f fe79 2 640 64f fe7a 2 20 650 fe7b 2 640 650 fe7c 2 20 651 fe7d 2 640 651
  fe7e 2 20 652 fe7f 2 640 652 fe80 1 621 fe81 2 627 653 fe82 2 627 653 fe83 2 627 654
  fe84 2 627 654 fe85 2 648 654 fe86 2 648 654 fe87 2 627 655 fe88 2 627 655 fe89 2 64a 654
  fe8a 2 64a 654 fe8b 2 64a 654 fe8c 2 64a 654 fe8d 1 627 fe90 1 628 fe91 1 628 fe96 1 62a
  fe97 1 62a fe9a 1 62b fe9b 1 62b fe9e 1 62c fe9f 1 62c fea2 1 62d fea3 1 62d fea6 1 62e
  fea7 1 62e feb2 1 633 feb3 1 633 feb6 1 634 feb7 1 634 feba 1 635 febb 1 635 febe 1 636
  febf 1 636 fec2 1 637 fec3 1 637 fec6 1 638 fec7 1 638 feca 1 639 fecb 1 639 fece 1 63a
  fecf 1 63a fed0 1 63a fed1 1 641 fed2 1 641 fed3 1 641 fed6 1 642 fed7 1 642 feda 1 643
  fedb 1 643 fede 1 644 fedf 1 644 fee2 1 645 fee3 1 645 fee6 1 646 fee7 1 646 feea 1 647
  feeb 1 647 fef2 1 64a fef3 1 64a fef4 1 64a fef5 3 644 627 653 fef6 3 644 627 653
  fef7 3 644 627 654 fef8 3 644 627 654 fef9 3 644 627 655 fefa 3 644 627 655 fefb 2 644 627
  fefc 2 644 627 ff61 1 3002 ff64 1 3001 ff65 1 30fb ff66 1 30f2 ff67 1 30a1 ff68 1 30a3
  ff69 1 30a5 ff6a 1 30a7 ff6b 1 30a9 ff6c 1 30e3 ff6d 1 30e5 ff6e 1 30e7 ff6f 1 30c3 ff70 1 30fc
  ff71 1 30a2 ff72 1 30a4 ff73 1 30a6 ff74 1 30a8 ff77 1 30ad ff78 1 30af ff79 1 30b1 ff7a 1 30b3
  ff7b 1 30b5 ff7c 1 30b7 ff7d 1 30b9 ff7e 1 30bb ff7f 1 30bd ff80 1 30bf ff81 1 30c1 ff82 1 30c4
  ff83 1 30c6 ff84 1 30c8 ff8b 1 30d2 ff8c 1 30d5 ff8d 1 30d8 ff8e 1 30db ff94 1 30e4 ff95 1 30e6
  ff9c 1 30ef ff9d 1 30f3 ffa0 1 1160 ffa3 1 11aa ffa4 1 1102 ffb0 1 111a ffb4 1 1121 ffe2 1 ac
  ffe3 2 20 304 ffe4 1 a6 ffe5 1 a5 ffe6 1 20a9 ffe8 1 2502 ffed 1 25a0 ffee 1 25cb
  105c9 2 105d2 307 105e4 2 105da 307 10783 1 e6 10784 1 299 10785 1 253 10787 1 2a3 10788 1 ab66
  10789 1 2a5 1078a 1 2a4 1078d 1 1d91 1078e 1 258 1078f 1 25e 10790 1 2a9 10791 1 264 10792 1 262
  10793 1 260 10794 1 29b 10795 1 127 10796 1 29c 10797 1 267 10798 1 284 1079b 1 26c 1079c 1 1df04
  1079d 1 a78e 1079e 1 26e 1079f 1 1df05 107a0 1 28e 107a1 1 1df06 107a2 1 f8 107a5 1 71
  107a6 1 27a 107a7 1 1df08 107aa 1 280 107ab 1 2a8 107ac 1 2a6 107ad 1 ab67 107ae 1 2a7
  107af 1 288 107b0 1 2c71 107b2 1 28f 107b5 1 298 107b9 1 1df0a 107ba 1 1df1e 1109a 2 11099 110ba
  1109c 2 1109b 110ba 110ab 2 110a5 110ba 1112e 2 11131 11127 1112f 2 11132 11127
  1134b 2 11347 1133e 1134c 2 11347 11357 11383 2 11382 113c9 11385 2 11384 113bb
  1138e 2 1138b 113c2 11391 2 11390 113c9 113c5 2 113c2 113c2 113c7 2 113c2 113b8
  113c8 2 113c2 113c9 114bb 2 114b9 114ba 114bc 2 114b9 114b0 114be 2 114b9 114bd
  115ba 2 115b8 115af 115bb 2 115b9 115af 11938 2 11935 11930 16121 2 1611e 1611e
  16122 2 1611e 16129 16123 2 1611e 1611f 16124 2 16129 1611f 16125 2 1611e 16120
  16126 3 1611e 1611e 1611f 16127 3 1611e 16129 1611f 16128 3 1611e 1611e 16120 16d68 2 16d67 16d67
  16d69 2 16d63 16d67 16d6a 3 16d63 16d67 16d67 1b123 2 3053 3068 1b124 2 30c8 30ad
  1b125 2 30c8 30c6 1b126 2 30e8 30ea 1d15e 2 1d157 1d165 1d15f 2 1d158 1d165
  1d160 3 1d158 1d165 1d16e 1d161 3 1d158 1d165 1d16f 1d162 3 1d158 1d165 1d170
  1d163 3 1d158 1d165 1d171 1d164 3 1d158 1d165 1d172 1d1bb 2 1d1b9 1d165 1d1bc 2 1d1ba 1d165
  1d1bd 3 1d1b9 1d165 1d16e 1d1be 3 1d1ba 1d165 1d16e 1d1bf 3 1d1b9 1d165 1d16f
  1d1c0 3 1d1ba 1d165 1d16f 1d49c 1 41 1d4a2 1 47 1d4bb 1 66 1d546 1 4f 1d6a4 1 131 1d6a5 1 237
  1d6a6 1 df 1d6b9 1 398 1d6c1 1 2207 1d6db 1 2202 1d6dc 1 3b5 1d6dd 1 3b8 1d6de 1 3ba 1d6df 1 3c6
  1d6e0 1 3c1 1d6e1 1 3c0 1d6f3 1 398 1d6fb 1 2207 1d715 1 2202 1d716 1 3b5 1d717 1 3b8 1d718 1 3ba
  1d719 1 3c6 1d71a 1 3c1 1d71b 1 3c0 1d72d 1 398 1d735 1 2207 1d74f 1 2202 1d750 1 3b5 1d751 1 3b8
  1d752 1 3ba 1d753 1 3c6 1d754 1 3c1 1d755 1 3c0 1d767 1 398 1d76f 1 2207 1d789 1 2202 1d78a 1 3b5
  1d78b 1 3b8 1d78c 1 3ba 1d78d 1 3c6 1d78e 1 3c1 1d78f 1 3c0 1d7a1 1 398 1d7a9 1 2207 1d7c3 1 2202
  1d7c4 1 3b5 1d7c5 1 3b8 1d7c6 1 3ba 1d7c7 1 3c6 1d7c8 1 3c1 1d7c9 1 3c0 1df95 1 df 1dfcd 1 1df57
  1dfce 1 1df58 1dfcf 1 1df59 1dfd0 1 263 1dfd1 1 1d18 1dfd2 1 180 1dfd3 1 111 1dfd4 1 1e5
  1dfd5 1 142 1dfd6 1 19a 1dfd7 1 1df50 1dfd8 1 1df3e 1dfd9 1 249 1dfda 1 1d7f 1dfdb 1 1df3f
  1dfdc 1 19e 1dfdd 1 27c 1dfde 1 238 1dfdf 1 239 1dfe0 1 1df2b 1dfe1 1 1df19 1dfe2 1 286
  1dfe3 1 1d98 1dfe4 1 1df2c 1dfe5 1 1df1c 1dfe6 1 293 1dfe7 1 1d9a 1dfe8 1 1d05 1dfe9 1 1d00
  1dfea 1 1d07 1dfeb 1 27f 1dfec 1 285 1dfed 1 2ae 1dfee 1 2af 1dfef 1 221 1dff0 1 234 1dff1 1 235
  1dff2 1 236 1dff3 1 3c8 1dff4 1 3c9 1dff5 1 1d81 1dff6 1 a795 1dff7 1 1d87 1dff8 1 1d8a
  1dff9 1 1d8e 1dffa 1 188 1dffb 1 199 1dffc 1 1a5 1dffd 1 2a0 1dffe 1 1ad 1dfff 1 1df09
  1e047 1 44b 1e04a 1 a689 1e04b 1 4d9 1e04c 1 456 1e04d 1 458 1e04e 1 4e9 1e04f 1 4af 1e050 1 4cf
  1e05e 1 441 1e067 1 491 1e068 1 456 1e069 1 455 1e06a 1 45f 1e06b 1 4ab 1e06c 1 a651 1e06d 1 4b1
  1ee02 1 62c 1ee03 1 62f 1ee05 1 648 1ee06 1 632 1ee07 1 62d 1ee08 1 637 1ee09 1 64a 1ee0e 1 633
  1ee0f 1 639 1ee10 1 641 1ee11 1 635 1ee12 1 642 1ee13 1 631 1ee14 1 634 1ee17 1 62e 1ee18 1 630
  1ee19 1 636 1ee1a 1 638 1ee1b 1 63a 1ee1c 1 66e 1ee1d 1 6ba 1ee1e 1 6a1 1ee1f 1 66f 1ee21 1 628
  1ee22 1 62c 1ee24 1 647 1ee27 1 62d 1ee29 1 64a 1ee2e 1 633 1ee2f 1 639 1ee30 1 641 1ee31 1 635
  1ee32 1 642 1ee34 1 634 1ee37 1 62e 1ee39 1 636 1ee3b 1 63a 1ee42 1 62c 1ee47 1 62d 1ee49 1 64a
  1ee4b 1 644 1ee4d 1 646 1ee4e 1 633 1ee4f 1 639 1ee51 1 635 1ee52 1 642 1ee54 1 634 1ee57 1 62e
  1ee59 1 636 1ee5b 1 63a 1ee5d 1 6ba 1ee5f 1 66f 1ee61 1 628 1ee62 1 62c 1ee64 1 647 1ee67 1 62d
  1ee68 1 637 1ee69 1 64a 1ee6a 1 643 1ee6e 1 633 1ee6f 1 639 1ee70 1 641 1ee71 1 635 1ee72 1 642
  1ee74 1 634 1ee77 1 62e 1ee79 1 636 1ee7a 1 638 1ee7b 1 63a 1ee7c 1 66e 1ee7e 1 6a1 1ee82 1 62c
  1ee83 1 62f 1ee86 1 632 1ee87 1 62d 1ee88 1 637 1ee89 1 64a 1ee8e 1 633 1ee8f 1 639 1ee90 1 641
  1ee91 1 635 1ee92 1 642 1ee93 1 631 1ee94 1 634 1ee97 1 62e 1ee98 1 630 1ee99 1 636 1ee9a 1 638
  1ee9b 1 63a 1eea1 1 628 1eea2 1 62c 1eea3 1 62f 1eea5 1 648 1eea6 1 632 1eea7 1 62d 1eea8 1 637
  1eea9 1 64a 1eeae 1 633 1eeaf 1 639 1eeb0 1 641 1eeb1 1 635 1eeb2 1 642 1eeb3 1 631 1eeb4 1 634
  1eeb7 1 62e 1eeb8 1 630 1eeb9 1 636 1eeba 1 638 1eebb 1 63a 1f100 2 30 2e 1f101 2 30 2c
  1f102 2 31 2c 1f103 2 32 2c 1f104 2 33 2c 1f105 2 34 2c 1f106 2 35 2c 1f107 2 36 2c 1f108 2 37 2c
  1f109 2 38 2c 1f10a 2 39 2c 1f110 3 28 41 29 1f111 3 28 42 29 1f112 3 28 43 29 1f113 3 28 44 29
  1f114 3 28 45 29 1f115 3 28 46 29 1f116 3 28 47 29 1f117 3 28 48 29 1f118 3 28 49 29
  1f119 3 28 4a 29 1f11a 3 28 4b 29 1f11b 3 28 4c 29 1f11c 3 28 4d 29 1f11d 3 28 4e 29
  1f11e 3 28 4f 29 1f11f 3 28 50 29 1f120 3 28 51 29 1f121 3 28 52 29 1f122 3 28 53 29
  1f123 3 28 54 29 1f124 3 28 55 29 1f125 3 28 56 29 1f126 3 28 57 29 1f127 3 28 58 29
  1f128 3 28 59 29 1f129 3 28 5a 29 1f12a 3 3014 53 3015 1f12b 1 43 1f12c 1 52 1f12d 2 43 44
  1f12e 2 57 5a 1f14a 2 48 56 1f14b 2 4d 56 1f14c 2 53 44 1f14d 2 53 53 1f14e 3 50 50 56
  1f14f 2 57 43 1f16a 2 4d 43 1f16b 2 4d 44 1f16c 2 4d 52 1f190 2 44 4a 1f200 2 307b 304b
  1f201 2 30b3 30b3 1f202 1 30b5 1f210 1 624b 1f211 1 5b57 1f212 1 53cc 1f213 2 30c6 3099
  1f214 1 4e8c 1f215 1 591a 1f216 1 89e3 1f217 1 5929 1f218 1 4ea4 1f219 1 6620 1f21a 1 7121
  1f21b 1 6599 1f21c 1 524d 1f21d 1 5f8c 1f21e 1 518d 1f21f 1 65b0 1f220 1 521d 1f221 1 7d42
  1f222 1 751f 1f223 1 8ca9 1f224 1 58f0 1f225 1 5439 1f226 1 6f14 1f227 1 6295 1f228 1 6355
  1f229 1 4e00 1f22a 1 4e09 1f22b 1 904a 1f22c 1 5de6 1f22d 1 4e2d 1f22e 1 53f3 1f22f 1 6307
  1f230 1 8d70 1f231 1 6253 1f232 1 7981 1f233 1 7a7a 1f234 1 5408 1f235 1 6e80 1f236 1 6709
  1f237 1 6708 1f238 1 7533 1f239 1 5272 1f23a 1 55b6 1f23b 1 914d 1f240 3 3014 672c 3015
  1f241 3 3014 4e09 3015 1f242 3 3014 4e8c 3015 1f243 3 3014 5b89 3015 1f244 3 3014 70b9 3015
  1f245 3 3014 6253 3015 1f246 3 3014 76d7 3015 1f247 3 3014 52dd 3015 1f248 3 3014 6557 3015
  1f250 1 5f97 1f251 1 53ef 2f800 1 4e3d 2f801 1 4e38 2f802 1 4e41 2f803 1 20122 2f804 1 4f60
  2f805 1 4fae 2f806 1 4fbb 2f807 1 5002 2f808 1 507a 2f809 1 5099 2f80a 1 50e7 2f80b 1 50cf
  2f80c 1 349e 2f80d 1 2063a 2f80e 1 514d 2f80f 1 5154 2f810 1 5164 2f811 1 5177 2f812 1 2051c
  2f813 1 34b9 2f814 1 5167 2f815 1 518d 2f816 1 2054b 2f817 1 5197 2f818 1 51a4 2f819 1 4ecc
  2f81a 1 51ac 2f81b 1 51b5 2f81c 1 291df 2f81d 1 51f5 2f81e 1 5203 2f81f 1 34df 2f820 1 523b
  2f821 1 5246 2f822 1 5272 2f823 1 5277 2f824 1 3515 2f825 1 52c7 2f826 1 52c9 2f827 1 52e4
  2f828 1 52fa 2f82b 1 5317 2f82c 1 5349 2f82d 1 5351 2f82e 1 535a 2f82f 1 5373 2f830 1 537d
  2f831 1 537f 2f832 1 537f 2f833 1 537f 2f834 1 20a2c 2f835 1 7070 2f836 1 53ca 2f837 1 53df
  2f838 1 20b63 2f839 1 53eb 2f83a 1 53f1 2f83b 1 5406 2f83c 1 549e 2f83d 1 5438 2f83e 1 5448
  2f83f 1 5468 2f840 1 54a2 2f841 1 54f6 2f842 1 5510 2f843 1 5553 2f844 1 5563 2f845 1 5584
  2f846 1 5584 2f847 1 5599 2f848 1 55ab 2f849 1 55b3 2f84a 1 55c2 2f84b 1 5716 2f84c 1 5606
  2f84d 1 5717 2f84e 1 5651 2f84f 1 5674 2f850 1 5207 2f851 1 58ee 2f852 1 57ce 2f853 1 57f4
  2f854 1 580d 2f855 1 578b 2f856 1 5832 2f857 1 5831 2f858 1 58ac 2f859 1 214e4 2f85a 1 58f2
  2f85b 1 58f7 2f85c 1 5906 2f85d 1 591a 2f85e 1 5922 2f85f 1 5962 2f860 1 216a8 2f861 1 216ea
  2f862 1 59ec 2f863 1 5a1b 2f864 1 5a27 2f865 1 59d8 2f866 1 5a66 2f867 1 36ee 2f868 1 36fc
  2f869 1 5b08 2f86a 1 5b3e 2f86b 1 5b3e 2f86c 1 219c8 2f86d 1 5bc3 2f86e 1 5bd8 2f86f 1 5be7
  2f870 1 5bf3 2f871 1 21b18 2f872 1 5bff 2f873 1 5c06 2f874 1 5f53 2f875 1 5c22 2f876 1 3781
  2f877 1 5c60 2f878 1 5c6e 2f879 1 5cc0 2f87a 1 5c8d 2f87b 1 21de4 2f87c 1 5d43 2f87d 1 21de6
  2f87e 1 5d6e 2f87f 1 5d6b 2f880 1 5d7c 2f883 1 382f 2f884 1 5dfd 2f885 1 5e28 2f886 1 5e3d
  2f887 1 5e69 2f888 1 3862 2f889 1 22183 2f88a 1 387c 2f88b 1 5eb0 2f88c 1 5eb3 2f88d 1 5eb6
  2f88e 1 5eca 2f88f 1 2a392 2f890 1 5efe 2f891 1 22331 2f892 1 22331 2f893 1 8201 2f894 1 5f22
  2f895 1 5f22 2f896 1 38c7 2f897 1 232b8 2f898 1 261da 2f899 1 5f62 2f89a 1 5f6b 2f89b 1 38e3
  2f89c 1 5f9a 2f89d 1 5fcd 2f89e 1 5fd7 2f89f 1 5ff9 2f8a0 1 6081 2f8a1 1 393a 2f8a2 1 391c
  2f8a3 1 6094 2f8a4 1 226d4 2f8a5 1 60c7 2f8a6 1 6148 2f8a7 1 614c 2f8a8 1 614e 2f8a9 1 614c
  2f8aa 1 617a 2f8ab 1 618e 2f8ac 1 61b2 2f8ad 1 61a4 2f8ae 1 61af 2f8af 1 61de 2f8b0 1 61f2
  2f8b1 1 61f6 2f8b2 1 6210 2f8b3 1 621b 2f8b4 1 625d 2f8b5 1 62b1 2f8b6 1 62d4 2f8b7 1 6350
  2f8b8 1 22b0c 2f8b9 1 633d 2f8ba 1 62fc 2f8bb 1 6368 2f8bc 1 6383 2f8bd 1 63e4 2f8be 1 22bf1
  2f8bf 1 6422 2f8c0 1 63c5 2f8c1 1 63a9 2f8c2 1 3a2e 2f8c3 1 6469 2f8c4 1 647e 2f8c5 1 649d
  2f8c6 1 6477 2f8c7 1 3a6c 2f8c8 1 654f 2f8c9 1 656c 2f8ca 1 2300a 2f8cb 1 65e3 2f8cc 1 66f8
  2f8cd 1 6649 2f8ce 1 3b19 2f8cf 1 6691 2f8d0 1 3b08 2f8d1 1 3ae4 2f8d2 1 5192 2f8d3 1 5195
  2f8d4 1 6700 2f8d5 1 669c 2f8d6 1 80ad 2f8d7 1 43d9 2f8d8 1 6717 2f8d9 1 671b 2f8da 1 6721
  2f8db 1 675e 2f8dc 1 6753 2f8dd 1 233c3 2f8de 1 3b49 2f8df 1 67fa 2f8e0 1 6785 2f8e1 1 6852
  2f8e2 1 6885 2f8e3 1 2346d 2f8e4 1 688e 2f8e5 1 681f 2f8e6 1 6914 2f8e7 1 3b9d 2f8e8 1 6942
  2f8e9 1 69a3 2f8ea 1 69ea 2f8eb 1 6aa8 2f8ec 1 236a3 2f8ed 1 6adb 2f8ee 1 3c18 2f8ef 1 6b21
  2f8f0 1 238a7 2f8f1 1 6b54 2f8f2 1 3c4e 2f8f3 1 6b72 2f8f4 1 6b9f 2f8f7 1 23a8d 2f8f8 1 21d0b
  2f8f9 1 23afa 2f8fa 1 6c4e 2f8fb 1 23cbc 2f8fc 1 6cbf 2f8fd 1 6ccd 2f8fe 1 6c67 2f8ff 1 6d16
  2f900 1 6d3e 2f901 1 6d77 2f902 1 6d41 2f903 1 6d69 2f904 1 6d78 2f905 1 6d85 2f906 1 23d1e
  2f907 1 6d34 2f908 1 6e2f 2f909 1 6e6e 2f90a 1 3d33 2f90b 1 6ecb 2f90c 1 6ec7 2f90d 1 23ed1
  2f90e 1 6df9 2f90f 1 6f6e 2f910 1 23f5e 2f911 1 23f8e 2f912 1 6fc6 2f913 1 7039 2f914 1 701e
  2f915 1 701b 2f916 1 3d96 2f917 1 704a 2f918 1 707d 2f919 1 7077 2f91a 1 70ad 2f91b 1 20525
  2f91c 1 7145 2f91d 1 24263 2f91e 1 719c 2f91f 1 243ab 2f920 1 7228 2f921 1 7235 2f922 1 7250
  2f923 1 24608 2f924 1 7280 2f925 1 7295 2f926 1 24735 2f927 1 24814 2f928 1 737a 2f929 1 738b
  2f92a 1 3eac 2f92b 1 73a5 2f92c 1 3eb8 2f92d 1 3eb8 2f92e 1 7447 2f92f 1 745c 2f930 1 7471
  2f931 1 7485 2f932 1 74ca 2f933 1 3f1b 2f934 1 7524 2f935 1 24c36 2f936 1 753e 2f937 1 24c92
  2f938 1 7570 2f939 1 2219f 2f93a 1 7610 2f93b 1 24fa1 2f93c 1 24fb8 2f93d 1 25044 2f93e 1 3ffc
  2f93f 1 4008 2f940 1 76f4 2f941 1 250f3 2f942 1 250f2 2f943 1 25119 2f944 1 25133 2f947 1 771f
  2f948 1 774a 2f949 1 4039 2f94a 1 778b 2f94b 1 4046 2f94c 1 4096 2f94d 1 2541d 2f94e 1 784e
  2f94f 1 788c 2f950 1 78cc 2f951 1 40e3 2f952 1 25626 2f953 1 7956 2f954 1 2569a 2f955 1 256c5
  2f956 1 798f 2f957 1 79eb 2f958 1 412f 2f959 1 7a40 2f95a 1 7a4a 2f95b 1 7a4f 2f95c 1 2597c
  2f95d 1 25aa7 2f95e 1 25aa7 2f95f 1 7aee 2f960 1 4202 2f961 1 25bab 2f962 1 7bc6 2f963 1 7bc9
  2f964 1 4227 2f965 1 25c80 2f966 1 7cd2 2f967 1 42a0 2f968 1 7ce8 2f969 1 7ce3 2f96a 1 7d00
  2f96b 1 25f86 2f96c 1 7d63 2f96d 1 4301 2f96e 1 7dc7 2f96f 1 7e02 2f970 1 7e45 2f971 1 4334
  2f972 1 26228 2f973 1 26247 2f974 1 4359 2f975 1 262d9 2f976 1 7f7a 2f977 1 2633e 2f978 1 7f95
  2f979 1 7ffa 2f97a 1 8005 2f97b 1 264da 2f97c 1 26523 2f97d 1 8060 2f97e 1 265a8 2f97f 1 8070
  2f980 1 2335f 2f981 1 43d5 2f982 1 80b2 2f983 1 8103 2f984 1 440b 2f985 1 813e 2f986 1 5ab5
  2f987 1 267a7 2f988 1 267b5 2f989 1 23393 2f98a 1 2339c 2f98b 1 8201 2f98c 1 8204 2f98d 1 8f9e
  2f98e 1 446b 2f98f 1 8291 2f990 1 828b 2f991 1 829d 2f992 1 52b3 2f993 1 82b1 2f994 1 82b3
  2f995 1 82bd 2f996 1 82e6 2f997 1 26b3c 2f998 1 82e5 2f999 1 831d 2f99a 1 8363 2f99b 1 83ad
  2f99c 1 8323 2f99d 1 83bd 2f99e 1 83e7 2f99f 1 8457 2f9a0 1 8353 2f9a1 1 83ca 2f9a2 1 83cc
  2f9a3 1 83dc 2f9a4 1 26c36 2f9a5 1 26d6b 2f9a6 1 26cd5 2f9a7 1 452b 2f9a8 1 84f1 2f9a9 1 84f3
  2f9aa 1 8516 2f9ab 1 273ca 2f9ac 1 8564 2f9ad 1 26f2c 2f9ae 1 455d 2f9af 1 4561 2f9b0 1 26fb1
  2f9b1 1 270d2 2f9b2 1 456b 2f9b3 1 8650 2f9b4 1 865c 2f9b5 1 8667 2f9b6 1 8669 2f9b7 1 86a9
  2f9b8 1 8688 2f9b9 1 870e 2f9ba 1 86e2 2f9bb 1 8779 2f9bc 1 8728 2f9bd 1 876b 2f9be 1 8786
  2f9bf 1 45d7 2f9c0 1 87e1 2f9c1 1 8801 2f9c2 1 45f9 2f9c3 1 8860 2f9c4 1 8863 2f9c5 1 27667
  2f9c6 1 88d7 2f9c7 1 88de 2f9c8 1 4635 2f9c9 1 88fa 2f9ca 1 34bb 2f9cb 1 278ae 2f9cc 1 27966
  2f9cd 1 46be 2f9ce 1 46c7 2f9cf 1 8aa0 2f9d0 1 8aed 2f9d1 1 8b8a 2f9d2 1 8c55 2f9d3 1 27ca8
  2f9d4 1 8cab 2f9d5 1 8cc1 2f9d6 1 8d1b 2f9d7 1 8d77 2f9d8 1 27f2f 2f9d9 1 20804 2f9da 1 8dcb
  2f9db 1 8dbc 2f9dc 1 8df0 2f9dd 1 208de 2f9de 1 8ed4 2f9df 1 8f38 2f9e0 1 285d2 2f9e1 1 285ed
  2f9e2 1 9094 2f9e3 1 90f1 2f9e4 1 9111 2f9e5 1 2872e 2f9e6 1 911b 2f9e7 1 9238 2f9ea 1 927c
  2f9eb 1 93f9 2f9ec 1 9415 2f9ed 1 28bfa 2f9ee 1 958b 2f9ef 1 4995 2f9f0 1 95b7 2f9f1 1 28d77
  2f9f2 1 49e6 2f9f3 1 96c3 2f9f4 1 5db2 2f9f5 1 9723 2f9f6 1 29145 2f9f7 1 2921a 2f9f8 1 4a6e
  2f9f9 1 4a76 2f9fa 1 97e0 2f9fb 1 2940a 2f9fc 1 4ab2 2f9fd 1 29496 2f9fe 1 980b 2f9ff 1 980b
  2fa00 1 9829 2fa01 1 295b6 2fa02 1 98e2 2fa03 1 4b33 2fa04 1 9929 2fa05 1 99a7 2fa06 1 99c2
  2fa07 1 99fe 2fa08 1 4bce 2fa09 1 29b30 2fa0a 1 9b12 2fa0b 1 9c40 2fa0c 1 9cfd 2fa0d 1 4cce
  2fa0e 1 4ced 2fa0f 1 9d67 2fa10 1 2a0ce 2fa11 1 4cf8 2fa12 1 2a105 2fa13 1 2a20e 2fa14 1 2a291
  2fa15 1 9ebb 2fa16 1 4d56 2fa17 1 9ef9 2fa18 1 9efe 2fa19 1 9f05 2fa1a 1 9f0f 2fa1b 1 9f16
  2fa1c 1 9f3b 2fa1d 1 2a600"
  (Expansion.ofNumbers numbers.length numbers).toArray

/-- The combining classes, as first code point, last code point and class. -/
def classes : List (Nat × Nat × Nat) := triples (hexNumbers "
  300 314 e6 315 315 e8 316 319 dc 31a 31a e8 31b 31b d8 31c 320 dc 321 322 ca 323 326 dc 327 328
  ca 329 333 dc 334 338 1 339 33c dc 33d 344 e6 345 345 f0 346 346 e6 347 349 dc 34a 34c e6 34d 34e
  dc 350 352 e6 353 356 dc 357 357 e6 358 358 e8 359 35a dc 35b 35b e6 35c 35c e9 35d 35e ea 35f
  35f e9 360 361 ea 362 362 e9 363 36f e6 483 487 e6 591 591 dc 592 595 e6 596 596 dc 597 599 e6
  59a 59a de 59b 59b dc 59c 5a1 e6 5a2 5a7 dc 5a8 5a9 e6 5aa 5aa dc 5ab 5ac e6 5ad 5ad de 5ae 5ae
  e4 5af 5af e6 5b0 5b0 a 5b1 5b1 b 5b2 5b2 c 5b3 5b3 d 5b4 5b4 e 5b5 5b5 f 5b6 5b6 10 5b7 5b7 11
  5b8 5b8 12 5b9 5ba 13 5bb 5bb 14 5bc 5bc 15 5bd 5bd 16 5bf 5bf 17 5c1 5c1 18 5c2 5c2 19 5c4 5c4
  e6 5c5 5c5 dc 5c7 5c7 12 5c8 5c8 dc 5c9 5c9 e6 610 617 e6 618 618 1e 619 619 1f 61a 61a 20 64b
  64b 1b 64c 64c 1c 64d 64d 1d 64e 64e 1e 64f 64f 1f 650 650 20 651 651 21 652 652 22 653 654 e6
  655 656 dc 657 65b e6 65c 65c dc 65d 65e e6 65f 65f dc 670 670 23 6d6 6dc e6 6df 6e2 e6 6e3 6e3
  dc 6e4 6e4 e6 6e7 6e8 e6 6ea 6ea dc 6eb 6ec e6 6ed 6ed dc 711 711 24 730 730 e6 731 731 dc 732
  733 e6 734 734 dc 735 736 e6 737 739 dc 73a 73a e6 73b 73c dc 73d 73d e6 73e 73e dc 73f 741 e6
  742 742 dc 743 743 e6 744 744 dc 745 745 e6 746 746 dc 747 747 e6 748 748 dc 749 74a e6 7eb 7f1
  e6 7f2 7f2 dc 7f3 7f3 e6 7fd 7fd dc 816 819 e6 81b 823 e6 825 827 e6 829 82d e6 859 85b dc 897
  898 e6 899 89b dc 89c 89f e6 8ca 8ce e6 8cf 8d3 dc 8d4 8e1 e6 8e3 8e3 dc 8e4 8e5 e6 8e6 8e6 dc
  8e7 8e8 e6 8e9 8e9 dc 8ea 8ec e6 8ed 8ef dc 8f0 8f0 1b 8f1 8f1 1c 8f2 8f2 1d 8f3 8f5 e6 8f6 8f6
  dc 8f7 8f8 e6 8f9 8fa dc 8fb 8ff e6 93c 93c 7 94d 94d 9 951 951 e6 952 952 dc 953 954 e6 9bc 9bc
  7 9cd 9cd 9 9fe 9fe e6 a3c a3c 7 a4d a4d 9 abc abc 7 acd acd 9 b3c b3c 7 b4d b4d 9 bcd bcd 9 c3c
  c3c 7 c4d c4d 9 c55 c55 54 c56 c56 5b cbc cbc 7 ccd ccd 9 d3b d3c 9 d4d d4d 9 dca dca 9 e38 e39
  67 e3a e3a 9 e48 e4b 6b eb8 eb9 76 eba eba 9 ec8 ecb 7a f18 f19 dc f35 f35 dc f37 f37 dc f39 f39
  d8 f71 f71 81 f72 f72 82 f74 f74 84 f7a f7d 82 f80 f80 82 f82 f83 e6 f84 f84 9 f86 f87 e6 fc6 fc6
  dc 1037 1037 7 1039 103a 9 108d 108d dc 135d 135f e6 1714 1715 9 1734 1734 9 17d2 17d2 9 17dd
  17dd e6 18a9 18a9 e4 1939 1939 de 193a 193a e6 193b 193b dc 1a17 1a17 e6 1a18 1a18 dc 1a60 1a60 9
  1a75 1a7c e6 1a7f 1a7f dc 1ab0 1ab4 e6 1ab5 1aba dc 1abb 1abc e6 1abd 1abd dc 1abf 1ac0 dc 1ac1
  1ac2 e6 1ac3 1ac4 dc 1ac5 1ac9 e6 1aca 1aca dc 1acb 1adc e6 1add 1add dc 1ade 1ae5 e6 1ae6 1ae6
  dc 1ae7 1aea e6 1aeb 1aeb ea 1aec 1af0 e6 1b34 1b34 7 1b44 1b44 9 1b6b 1b6b e6 1b6c 1b6c dc 1b6d
  1b73 e6 1baa 1bab 9 1be6 1be6 7 1bf2 1bf3 9 1c37 1c37 7 1cd0 1cd2 e6 1cd4 1cd4 1 1cd5 1cd9 dc
  1cda 1cdb e6 1cdc 1cdf dc 1ce0 1ce0 e6 1ce2 1ce8 1 1ced 1ced dc 1cf4 1cf4 e6 1cf8 1cf9 e6 1dc0
  1dc1 e6 1dc2 1dc2 dc 1dc3 1dc9 e6 1dca 1dca dc 1dcb 1dcc e6 1dcd 1dcd ea 1dce 1dce d6 1dcf 1dcf
  dc 1dd0 1dd0 ca 1dd1 1df5 e6 1df6 1df6 e8 1df7 1df8 e4 1df9 1df9 dc 1dfa 1dfa da 1dfb 1dfb e6
  1dfc 1dfc e9 1dfd 1dfd dc 1dfe 1dfe e6 1dff 1dff dc 20d0 20d1 e6 20d2 20d3 1 20d4 20d7 e6 20d8
  20da 1 20db 20dc e6 20e1 20e1 e6 20e5 20e6 1 20e7 20e7 e6 20e8 20e8 dc 20e9 20e9 e6 20ea 20eb 1
  20ec 20ef dc 20f0 20f0 e6 2cef 2cf1 e6 2d7f 2d7f 9 2de0 2dff e6 302a 302a da 302b 302b e4 302c
  302c e8 302d 302d de 302e 302f e0 3099 309a 8 a66f a66f e6 a674 a67d e6 a69e a69f e6 a6f0 a6f1 e6
  a806 a806 9 a82c a82c 9 a8c4 a8c4 9 a8e0 a8f1 e6 a92b a92d dc a953 a953 9 a9b3 a9b3 7 a9c0 a9c0 9
  aab0 aab0 e6 aab2 aab3 e6 aab4 aab4 dc aab7 aab8 e6 aabe aabf e6 aac1 aac1 e6 aaf6 aaf6 9 abed
  abed 9 fb1e fb1e 1a fe20 fe26 e6 fe27 fe2d dc fe2e fe2f e6 101fd 101fd dc 102e0 102e0 dc 10376
  1037a e6 10a0d 10a0d dc 10a0f 10a0f e6 10a38 10a38 e6 10a39 10a39 1 10a3a 10a3a dc 10a3f 10a3f 9
  10ae5 10ae5 e6 10ae6 10ae6 dc 10d24 10d27 e6 10d69 10d6d e6 10eab 10eac e6 10ecb 10ecb e6 10ecc
  10ecd dc 10ece 10ecf e6 10ef0 10ef2 dc 10ef3 10ef3 e6 10ef4 10ef4 dc 10ef5 10ef5 e6 10ef6 10ef6
  dc 10ef7 10ef9 e6 10efa 10efb dc 10efd 10eff dc 10f46 10f47 dc 10f48 10f4a e6 10f4b 10f4b dc
  10f4c 10f4c e6 10f4d 10f50 dc 10f82 10f82 e6 10f83 10f83 dc 10f84 10f84 e6 10f85 10f85 dc 11046
  11046 9 11070 11070 9 1107f 1107f 9 110b9 110b9 9 110ba 110ba 7 11100 11102 e6 11133 11134 9
  11173 11173 7 111c0 111c0 9 111ca 111ca 7 11235 11235 9 11236 11236 7 112e9 112e9 7 112ea 112ea 9
  1133b 1133c 7 1134d 1134d 9 11366 1136c e6 11370 11374 e6 113ce 113d0 9 11442 11442 9 11446 11446
  7 1145e 1145e e6 114c2 114c2 9 114c3 114c3 7 115bf 115bf 9 115c0 115c0 7 1163f 1163f 9 116b6
  116b6 9 116b7 116b7 7 1172b 1172b 9 11839 11839 9 1183a 1183a 7 1193d 1193e 9 11943 11943 7 119e0
  119e0 9 11a34 11a34 9 11a47 11a47 9 11a99 11a99 9 11c3f 11c3f 9 11d42 11d42 7 11d44 11d45 9 11d97
  11d97 9 11f41 11f42 9 1612f 1612f 9 16af0 16af4 1 16b30 16b36 e6 16ff0 16ff1 6 1bc9e 1bc9e 1
  1d127 1d128 dc 1d165 1d166 d8 1d167 1d169 1 1d16d 1d16d e2 1d16e 1d172 d8 1d17b 1d182 dc 1d185
  1d189 e6 1d18a 1d18b dc 1d1aa 1d1ad e6 1d242 1d244 e6 1d250 1d252 d8 1d25b 1d25c dc 1d25f 1d25f
  dc 1d280 1d281 dc 1e000 1e006 e6 1e008 1e018 e6 1e01b 1e021 e6 1e023 1e024 e6 1e026 1e02a e6
  1e08f 1e08f e6 1e130 1e136 e6 1e2ae 1e2ae e6 1e2ec 1e2ef e6 1e4ec 1e4ed e8 1e4ee 1e4ee dc 1e4ef
  1e4ef e6 1e5ee 1e5ee e6 1e5ef 1e5ef dc 1e6e3 1e6e3 e6 1e6e6 1e6e6 e6 1e6ee 1e6ef e6 1e6f5 1e6f5
  e6 1e8d0 1e8d6 dc 1e944 1e949 e6 1e94a 1e94a 7")

/-- The pairs that have a character of their own, as first, second and composed code point. -/
def compositions : List (Nat × Nat × Nat) := triples (hexNumbers "
  41 300 c0 41 301 c1 41 302 c2 41 303 c3 41 308 c4 41 30a c5 43 327 c7 45 300 c8 45 301 c9
  45 302 ca 45 308 cb 49 300 cc 49 301 cd 49 302 ce 49 308 cf 4e 303 d1 4f 300 d2 4f 301 d3
  4f 302 d4 4f 303 d5 4f 308 d6 55 300 d9 55 301 da 55 302 db 55 308 dc 59 301 dd 61 300 e0
  61 301 e1 61 302 e2 61 303 e3 61 308 e4 61 30a e5 63 327 e7 65 300 e8 65 301 e9 65 302 ea
  65 308 eb 69 300 ec 69 301 ed 69 302 ee 69 308 ef 6e 303 f1 6f 300 f2 6f 301 f3 6f 302 f4
  6f 303 f5 6f 308 f6 75 300 f9 75 301 fa 75 302 fb 75 308 fc 79 301 fd 79 308 ff 41 304 100
  61 304 101 41 306 102 61 306 103 41 328 104 61 328 105 43 301 106 63 301 107 43 302 108
  63 302 109 43 307 10a 63 307 10b 43 30c 10c 63 30c 10d 44 30c 10e 64 30c 10f 45 304 112
  65 304 113 45 306 114 65 306 115 45 307 116 65 307 117 45 328 118 65 328 119 45 30c 11a
  65 30c 11b 47 302 11c 67 302 11d 47 306 11e 67 306 11f 47 307 120 67 307 121 47 327 122
  67 327 123 48 302 124 68 302 125 49 303 128 69 303 129 49 304 12a 69 304 12b 49 306 12c
  69 306 12d 49 328 12e 69 328 12f 49 307 130 4a 302 134 6a 302 135 4b 327 136 6b 327 137
  4c 301 139 6c 301 13a 4c 327 13b 6c 327 13c 4c 30c 13d 6c 30c 13e 4e 301 143 6e 301 144
  4e 327 145 6e 327 146 4e 30c 147 6e 30c 148 4f 304 14c 6f 304 14d 4f 306 14e 6f 306 14f
  4f 30b 150 6f 30b 151 52 301 154 72 301 155 52 327 156 72 327 157 52 30c 158 72 30c 159
  53 301 15a 73 301 15b 53 302 15c 73 302 15d 53 327 15e 73 327 15f 53 30c 160 73 30c 161
  54 327 162 74 327 163 54 30c 164 74 30c 165 55 303 168 75 303 169 55 304 16a 75 304 16b
  55 306 16c 75 306 16d 55 30a 16e 75 30a 16f 55 30b 170 75 30b 171 55 328 172 75 328 173
  57 302 174 77 302 175 59 302 176 79 302 177 59 308 178 5a 301 179 7a 301 17a 5a 307 17b
  7a 307 17c 5a 30c 17d 7a 30c 17e 4f 31b 1a0 6f 31b 1a1 55 31b 1af 75 31b 1b0 41 30c 1cd
  61 30c 1ce 49 30c 1cf 69 30c 1d0 4f 30c 1d1 6f 30c 1d2 55 30c 1d3 75 30c 1d4 dc 304 1d5
  fc 304 1d6 dc 301 1d7 fc 301 1d8 dc 30c 1d9 fc 30c 1da dc 300 1db fc 300 1dc c4 304 1de
  e4 304 1df 226 304 1e0 227 304 1e1 c6 304 1e2 e6 304 1e3 47 30c 1e6 67 30c 1e7 4b 30c 1e8
  6b 30c 1e9 4f 328 1ea 6f 328 1eb 1ea 304 1ec 1eb 304 1ed 1b7 30c 1ee 292 30c 1ef 6a 30c 1f0
  47 301 1f4 67 301 1f5 4e 300 1f8 6e 300 1f9 c5 301 1fa e5 301 1fb c6 301 1fc e6 301 1fd
  d8 301 1fe f8 301 1ff 41 30f 200 61 30f 201 41 311 202 61 311 203 45 30f 204 65 30f 205
  45 311 206 65 311 207 49 30f 208 69 30f 209 49 311 20a 69 311 20b 4f 30f 20c 6f 30f 20d
  4f 311 20e 6f 311 20f 52 30f 210 72 30f 211 52 311 212 72 311 213 55 30f 214 75 30f 215
  55 311 216 75 311 217 53 326 218 73 326 219 54 326 21a 74 326 21b 48 30c 21e 68 30c 21f
  41 307 226 61 307 227 45 327 228 65 327 229 d6 304 22a f6 304 22b d5 304 22c f5 304 22d
  4f 307 22e 6f 307 22f 22e 304 230 22f 304 231 59 304 232 79 304 233 a8 301 385 391 301 386
  395 301 388 397 301 389 399 301 38a 39f 301 38c 3a5 301 38e 3a9 301 38f 3ca 301 390 399 308 3aa
  3a5 308 3ab 3b1 301 3ac 3b5 301 3ad 3b7 301 3ae 3b9 301 3af 3cb 301 3b0 3b9 308 3ca 3c5 308 3cb
  3bf 301 3cc 3c5 301 3cd 3c9 301 3ce 3d2 301 3d3 3d2 308 3d4 415 300 400 415 308 401 413 301 403
  406 308 407 41a 301 40c 418 300 40d 423 306 40e 418 306 419 438 306 439 435 300 450 435 308 451
  433 301 453 456 308 457 43a 301 45c 438 300 45d 443 306 45e 474 30f 476 475 30f 477 416 306 4c1
  436 306 4c2 410 306 4d0 430 306 4d1 410 308 4d2 430 308 4d3 415 306 4d6 435 306 4d7 4d8 308 4da
  4d9 308 4db 416 308 4dc 436 308 4dd 417 308 4de 437 308 4df 418 304 4e2 438 304 4e3 418 308 4e4
  438 308 4e5 41e 308 4e6 43e 308 4e7 4e8 308 4ea 4e9 308 4eb 42d 308 4ec 44d 308 4ed 423 304 4ee
  443 304 4ef 423 308 4f0 443 308 4f1 423 30b 4f2 443 30b 4f3 427 308 4f4 447 308 4f5 42b 308 4f8
  44b 308 4f9 627 653 622 627 654 623 648 654 624 627 655 625 64a 654 626 6d5 654 6c0 6c1 654 6c2
  6d2 654 6d3 928 93c 929 930 93c 931 933 93c 934 9c7 9be 9cb 9c7 9d7 9cc b47 b56 b48 b47 b3e b4b
  b47 b57 b4c b92 bd7 b94 bc6 bbe bca bc7 bbe bcb bc6 bd7 bcc c46 c56 c48 cbf cd5 cc0 cc6 cd5 cc7
  cc6 cd6 cc8 cc6 cc2 cca cca cd5 ccb d46 d3e d4a d47 d3e d4b d46 d57 d4c dd9 dca dda dd9 dcf ddc
  ddc dca ddd dd9 ddf dde 1025 102e 1026 1b05 1b35 1b06 1b07 1b35 1b08 1b09 1b35 1b0a
  1b0b 1b35 1b0c 1b0d 1b35 1b0e 1b11 1b35 1b12 1b3a 1b35 1b3b 1b3c 1b35 1b3d 1b3e 1b35 1b40
  1b3f 1b35 1b41 1b42 1b35 1b43 41 325 1e00 61 325 1e01 42 307 1e02 62 307 1e03 42 323 1e04
  62 323 1e05 42 331 1e06 62 331 1e07 c7 301 1e08 e7 301 1e09 44 307 1e0a 64 307 1e0b 44 323 1e0c
  64 323 1e0d 44 331 1e0e 64 331 1e0f 44 327 1e10 64 327 1e11 44 32d 1e12 64 32d 1e13 112 300 1e14
  113 300 1e15 112 301 1e16 113 301 1e17 45 32d 1e18 65 32d 1e19 45 330 1e1a 65 330 1e1b
  228 306 1e1c 229 306 1e1d 46 307 1e1e 66 307 1e1f 47 304 1e20 67 304 1e21 48 307 1e22
  68 307 1e23 48 323 1e24 68 323 1e25 48 308 1e26 68 308 1e27 48 327 1e28 68 327 1e29 48 32e 1e2a
  68 32e 1e2b 49 330 1e2c 69 330 1e2d cf 301 1e2e ef 301 1e2f 4b 301 1e30 6b 301 1e31 4b 323 1e32
  6b 323 1e33 4b 331 1e34 6b 331 1e35 4c 323 1e36 6c 323 1e37 1e36 304 1e38 1e37 304 1e39
  4c 331 1e3a 6c 331 1e3b 4c 32d 1e3c 6c 32d 1e3d 4d 301 1e3e 6d 301 1e3f 4d 307 1e40 6d 307 1e41
  4d 323 1e42 6d 323 1e43 4e 307 1e44 6e 307 1e45 4e 323 1e46 6e 323 1e47 4e 331 1e48 6e 331 1e49
  4e 32d 1e4a 6e 32d 1e4b d5 301 1e4c f5 301 1e4d d5 308 1e4e f5 308 1e4f 14c 300 1e50
  14d 300 1e51 14c 301 1e52 14d 301 1e53 50 301 1e54 70 301 1e55 50 307 1e56 70 307 1e57
  52 307 1e58 72 307 1e59 52 323 1e5a 72 323 1e5b 1e5a 304 1e5c 1e5b 304 1e5d 52 331 1e5e
  72 331 1e5f 53 307 1e60 73 307 1e61 53 323 1e62 73 323 1e63 15a 307 1e64 15b 307 1e65
  160 307 1e66 161 307 1e67 1e62 307 1e68 1e63 307 1e69 54 307 1e6a 74 307 1e6b 54 323 1e6c
  74 323 1e6d 54 331 1e6e 74 331 1e6f 54 32d 1e70 74 32d 1e71 55 324 1e72 75 324 1e73 55 330 1e74
  75 330 1e75 55 32d 1e76 75 32d 1e77 168 301 1e78 169 301 1e79 16a 308 1e7a 16b 308 1e7b
  56 303 1e7c 76 303 1e7d 56 323 1e7e 76 323 1e7f 57 300 1e80 77 300 1e81 57 301 1e82 77 301 1e83
  57 308 1e84 77 308 1e85 57 307 1e86 77 307 1e87 57 323 1e88 77 323 1e89 58 307 1e8a 78 307 1e8b
  58 308 1e8c 78 308 1e8d 59 307 1e8e 79 307 1e8f 5a 302 1e90 7a 302 1e91 5a 323 1e92 7a 323 1e93
  5a 331 1e94 7a 331 1e95 68 331 1e96 74 308 1e97 77 30a 1e98 79 30a 1e99 17f 307 1e9b 41 323 1ea0
  61 323 1ea1 41 309 1ea2 61 309 1ea3 c2 301 1ea4 e2 301 1ea5 c2 300 1ea6 e2 300 1ea7 c2 309 1ea8
  e2 309 1ea9 c2 303 1eaa e2 303 1eab 1ea0 302 1eac 1ea1 302 1ead 102 301 1eae 103 301 1eaf
  102 300 1eb0 103 300 1eb1 102 309 1eb2 103 309 1eb3 102 303 1eb4 103 303 1eb5 1ea0 306 1eb6
  1ea1 306 1eb7 45 323 1eb8 65 323 1eb9 45 309 1eba 65 309 1ebb 45 303 1ebc 65 303 1ebd
  ca 301 1ebe ea 301 1ebf ca 300 1ec0 ea 300 1ec1 ca 309 1ec2 ea 309 1ec3 ca 303 1ec4 ea 303 1ec5
  1eb8 302 1ec6 1eb9 302 1ec7 49 309 1ec8 69 309 1ec9 49 323 1eca 69 323 1ecb 4f 323 1ecc
  6f 323 1ecd 4f 309 1ece 6f 309 1ecf d4 301 1ed0 f4 301 1ed1 d4 300 1ed2 f4 300 1ed3 d4 309 1ed4
  f4 309 1ed5 d4 303 1ed6 f4 303 1ed7 1ecc 302 1ed8 1ecd 302 1ed9 1a0 301 1eda 1a1 301 1edb
  1a0 300 1edc 1a1 300 1edd 1a0 309 1ede 1a1 309 1edf 1a0 303 1ee0 1a1 303 1ee1 1a0 323 1ee2
  1a1 323 1ee3 55 323 1ee4 75 323 1ee5 55 309 1ee6 75 309 1ee7 1af 301 1ee8 1b0 301 1ee9
  1af 300 1eea 1b0 300 1eeb 1af 309 1eec 1b0 309 1eed 1af 303 1eee 1b0 303 1eef 1af 323 1ef0
  1b0 323 1ef1 59 300 1ef2 79 300 1ef3 59 323 1ef4 79 323 1ef5 59 309 1ef6 79 309 1ef7 59 303 1ef8
  79 303 1ef9 3b1 313 1f00 3b1 314 1f01 1f00 300 1f02 1f01 300 1f03 1f00 301 1f04 1f01 301 1f05
  1f00 342 1f06 1f01 342 1f07 391 313 1f08 391 314 1f09 1f08 300 1f0a 1f09 300 1f0b 1f08 301 1f0c
  1f09 301 1f0d 1f08 342 1f0e 1f09 342 1f0f 3b5 313 1f10 3b5 314 1f11 1f10 300 1f12 1f11 300 1f13
  1f10 301 1f14 1f11 301 1f15 395 313 1f18 395 314 1f19 1f18 300 1f1a 1f19 300 1f1b 1f18 301 1f1c
  1f19 301 1f1d 3b7 313 1f20 3b7 314 1f21 1f20 300 1f22 1f21 300 1f23 1f20 301 1f24 1f21 301 1f25
  1f20 342 1f26 1f21 342 1f27 397 313 1f28 397 314 1f29 1f28 300 1f2a 1f29 300 1f2b 1f28 301 1f2c
  1f29 301 1f2d 1f28 342 1f2e 1f29 342 1f2f 3b9 313 1f30 3b9 314 1f31 1f30 300 1f32 1f31 300 1f33
  1f30 301 1f34 1f31 301 1f35 1f30 342 1f36 1f31 342 1f37 399 313 1f38 399 314 1f39 1f38 300 1f3a
  1f39 300 1f3b 1f38 301 1f3c 1f39 301 1f3d 1f38 342 1f3e 1f39 342 1f3f 3bf 313 1f40 3bf 314 1f41
  1f40 300 1f42 1f41 300 1f43 1f40 301 1f44 1f41 301 1f45 39f 313 1f48 39f 314 1f49 1f48 300 1f4a
  1f49 300 1f4b 1f48 301 1f4c 1f49 301 1f4d 3c5 313 1f50 3c5 314 1f51 1f50 300 1f52 1f51 300 1f53
  1f50 301 1f54 1f51 301 1f55 1f50 342 1f56 1f51 342 1f57 3a5 314 1f59 1f59 300 1f5b 1f59 301 1f5d
  1f59 342 1f5f 3c9 313 1f60 3c9 314 1f61 1f60 300 1f62 1f61 300 1f63 1f60 301 1f64 1f61 301 1f65
  1f60 342 1f66 1f61 342 1f67 3a9 313 1f68 3a9 314 1f69 1f68 300 1f6a 1f69 300 1f6b 1f68 301 1f6c
  1f69 301 1f6d 1f68 342 1f6e 1f69 342 1f6f 3b1 300 1f70 3b5 300 1f72 3b7 300 1f74 3b9 300 1f76
  3bf 300 1f78 3c5 300 1f7a 3c9 300 1f7c 1f00 345 1f80 1f01 345 1f81 1f02 345 1f82 1f03 345 1f83
  1f04 345 1f84 1f05 345 1f85 1f06 345 1f86 1f07 345 1f87 1f08 345 1f88 1f09 345 1f89
  1f0a 345 1f8a 1f0b 345 1f8b 1f0c 345 1f8c 1f0d 345 1f8d 1f0e 345 1f8e 1f0f 345 1f8f
  1f20 345 1f90 1f21 345 1f91 1f22 345 1f92 1f23 345 1f93 1f24 345 1f94 1f25 345 1f95
  1f26 345 1f96 1f27 345 1f97 1f28 345 1f98 1f29 345 1f99 1f2a 345 1f9a 1f2b 345 1f9b
  1f2c 345 1f9c 1f2d 345 1f9d 1f2e 345 1f9e 1f2f 345 1f9f 1f60 345 1fa0 1f61 345 1fa1
  1f62 345 1fa2 1f63 345 1fa3 1f64 345 1fa4 1f65 345 1fa5 1f66 345 1fa6 1f67 345 1fa7
  1f68 345 1fa8 1f69 345 1fa9 1f6a 345 1faa 1f6b 345 1fab 1f6c 345 1fac 1f6d 345 1fad
  1f6e 345 1fae 1f6f 345 1faf 3b1 306 1fb0 3b1 304 1fb1 1f70 345 1fb2 3b1 345 1fb3 3ac 345 1fb4
  3b1 342 1fb6 1fb6 345 1fb7 391 306 1fb8 391 304 1fb9 391 300 1fba 391 345 1fbc a8 342 1fc1
  1f74 345 1fc2 3b7 345 1fc3 3ae 345 1fc4 3b7 342 1fc6 1fc6 345 1fc7 395 300 1fc8 397 300 1fca
  397 345 1fcc 1fbf 300 1fcd 1fbf 301 1fce 1fbf 342 1fcf 3b9 306 1fd0 3b9 304 1fd1 3ca 300 1fd2
  3b9 342 1fd6 3ca 342 1fd7 399 306 1fd8 399 304 1fd9 399 300 1fda 1ffe 300 1fdd 1ffe 301 1fde
  1ffe 342 1fdf 3c5 306 1fe0 3c5 304 1fe1 3cb 300 1fe2 3c1 313 1fe4 3c1 314 1fe5 3c5 342 1fe6
  3cb 342 1fe7 3a5 306 1fe8 3a5 304 1fe9 3a5 300 1fea 3a1 314 1fec a8 300 1fed 1f7c 345 1ff2
  3c9 345 1ff3 3ce 345 1ff4 3c9 342 1ff6 1ff6 345 1ff7 39f 300 1ff8 3a9 300 1ffa 3a9 345 1ffc
  2190 338 219a 2192 338 219b 2194 338 21ae 21d0 338 21cd 21d4 338 21ce 21d2 338 21cf
  2203 338 2204 2208 338 2209 220b 338 220c 2223 338 2224 2225 338 2226 223c 338 2241
  2243 338 2244 2245 338 2247 2248 338 2249 3d 338 2260 2261 338 2262 224d 338 226d 3c 338 226e
  3e 338 226f 2264 338 2270 2265 338 2271 2272 338 2274 2273 338 2275 2276 338 2278 2277 338 2279
  227a 338 2280 227b 338 2281 2282 338 2284 2283 338 2285 2286 338 2288 2287 338 2289
  22a2 338 22ac 22a8 338 22ad 22a9 338 22ae 22ab 338 22af 227c 338 22e0 227d 338 22e1
  2291 338 22e2 2292 338 22e3 22b2 338 22ea 22b3 338 22eb 22b4 338 22ec 22b5 338 22ed
  304b 3099 304c 304d 3099 304e 304f 3099 3050 3051 3099 3052 3053 3099 3054 3055 3099 3056
  3057 3099 3058 3059 3099 305a 305b 3099 305c 305d 3099 305e 305f 3099 3060 3061 3099 3062
  3064 3099 3065 3066 3099 3067 3068 3099 3069 306f 3099 3070 306f 309a 3071 3072 3099 3073
  3072 309a 3074 3075 3099 3076 3075 309a 3077 3078 3099 3079 3078 309a 307a 307b 3099 307c
  307b 309a 307d 3046 3099 3094 309d 3099 309e 30ab 3099 30ac 30ad 3099 30ae 30af 3099 30b0
  30b1 3099 30b2 30b3 3099 30b4 30b5 3099 30b6 30b7 3099 30b8 30b9 3099 30ba 30bb 3099 30bc
  30bd 3099 30be 30bf 3099 30c0 30c1 3099 30c2 30c4 3099 30c5 30c6 3099 30c7 30c8 3099 30c9
  30cf 3099 30d0 30cf 309a 30d1 30d2 3099 30d3 30d2 309a 30d4 30d5 3099 30d6 30d5 309a 30d7
  30d8 3099 30d9 30d8 309a 30da 30db 3099 30dc 30db 309a 30dd 30a6 3099 30f4 30ef 3099 30f7
  30f0 3099 30f8 30f1 3099 30f9 30f2 3099 30fa 30fd 3099 30fe 105d2 307 105c9 105da 307 105e4
  11099 110ba 1109a 1109b 110ba 1109c 110a5 110ba 110ab 11131 11127 1112e 11132 11127 1112f
  11347 1133e 1134b 11347 11357 1134c 11382 113c9 11383 11384 113bb 11385 1138b 113c2 1138e
  11390 113c9 11391 113c2 113c2 113c5 113c2 113b8 113c7 113c2 113c9 113c8 114b9 114ba 114bb
  114b9 114b0 114bc 114b9 114bd 114be 115b8 115af 115ba 115b9 115af 115bb 11935 11930 11938
  1611e 1611e 16121 1611e 16129 16122 1611e 1611f 16123 16129 1611f 16124 1611e 16120 16125
  16121 1611f 16126 16122 1611f 16127 16121 16120 16128 16d67 16d67 16d68 16d63 16d67 16d69
  16d69 16d67 16d6a")

end SessionAuth.Text.Compatibility
