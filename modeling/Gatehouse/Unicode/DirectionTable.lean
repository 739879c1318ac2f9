/-!
# Packed writing directions and joining types

The bidirectional class and the joining type of every code point, as runs.
Numbers are written in
base 36 with blanks between them.
-/

namespace Gatehouse.Unicode

/-- A run of `n` code points of the `k`-th direction is the number `12 * n + k`. -/
def directionRuns : List String :=
  ["39 1z 4x 1z w 17 1w h i h u 3g i 28 8o 28 8o 1k 29 n 8x i k 1j 1k c w l w v s k c 18 g c 1w 7o",
   "k ac k 45o w 2c 4w o 4w 1o 38 c 5w 11m 1c w o z 1c k c 1n w c k 10 n c n 6o n ro k 1ao 2m 1jc",
   "n co z gc k z w j n fa d m d y d y d m 2z 91 1n 21 3z 23 w e v e i e w 3y g2 7a 3f j r 12 m xq",
   "2m f k 2a q y k 1m q 3g 6q n q m a2 9a z tq 3y e 4z ed 3a p 1k d z m 81 1m d 3a d 1a d 1y z 51",
   "n 8d 1a z d n 3q 1z ae c r 1z c 2y e2 8a f ay ic m c m 1c 2y 1c m 10 2m 3c y 9o m o n 2o z o z",
   "7c n 2c n c 1b 1c z m 1c 1m z o z o m c 2z c 1n o n 10 y z 40 v 2c j o m z y c n 20 1n o z 7c",
   "n 2c n o n o n o z m n 10 y 1n y z 1a 1b m 2n 1c n c 2n 3c y 10 m c 3n y c n 30 n 10 n 7c n 2c",
   "n o n 1o z m 1c 1y n y c n o m z c 5b o y z 3o j 2n c 2a n m o n 2o z o z 7c n 2c n o n 1o z m",
   "o m c 1m z o z o m 2n y c 1n o n 10 y z 60 3n m c n 20 1b 10 n 1c 1b o n c n o 1b o 1b 10 1b",
   "40 1n o m o 1b 10 n 10 m z c 2b c 4z 4c 28 j k 1z m 10 m 2o n 10 n 7o n 5c z m c 1a 1c n 1a n",
   "1m 2n y n 10 n o z o y z 3c 2n c 2k o m 3o n 10 n 7o n 3c n 1o z m 2o n 10 n o y 2n o 1z 10 n",
   "o y z 3c n 10 4b y 3o n 10 n do y 1c 1m n 10 n 10 m o 1n 4o y z 8o n m o n 60 1b 80 n 30 n c z",
   "2c 1b m 1n 10 1a n m n 2o 2b 3c z 10 4b g0 m o 2m 1n j 2c 2y 4c cn o n c n 1o n 80 n c n 3c m",
   "o 3a c z 1o n c n 2a c n 3c z 1c az 80 y 90 m c m c m 1k 3c n c0 1n 4y c 1y c y 1o 3y n ca n",
   "2o m 20 n 4c cn f0 1m c 2a c y o y 8c y 1c 1a 5c 1m 4c m o y 20 m 50 m dc n c 1z c z 3ho n 1c",
   "z 2c n c n 1c z do n 1c z b0 n 1c z 2c n c n 1c z 50 n j0 n 1c z mc z 1a 9o 1b 5c 3k 2b so z",
   "20 z k 5x0 n 8o w 1b to 2n 60 1a c 3b 6c y 10 3b 60 y 4b 4c n 10 n y 4b hc y c 2m 2o m o 3y 2c",
   "j c m z 3c 2b 3k 2b 3w 1a l m 3c 2b to 2n 1o y bc m c 1z nc 3n ac n 1a 1c y 10 1n o m 20 1a 1n",
   "k 1b w dc z 1o 3z eo 1n 8o 2b 3o 1b bk 7o y o m z io m c 2m n m c m o 2y 20 3m z m 3c 2b 3c 2b",
   "4o z am 50 z 40 6z 1m g0 m c 1y c m 1o m 3c n 9o 3a 40 y ao 1m o y c 1a io m c y 10 m c 1a o",
   "2z g0 2y o y 1b 50 1b ko 1z ec z 3o 2z 1a c 4m c 2m 1c m 20 m 10 y c 1z 1s0 lm 2ko z 20 z co z",
   "20 z 2o n c n c n c n ac z ho n 2c k c 18 10 n 2c 18 1c z 20 n 18 4c 18 z 10 n 2c w 4b 19 c d",
   "88 2n i 1v 58 i 8w n 1x 1z 29 g c z 24 t 18 c 3g t 18 n 4c 1b b7 c 4z ba 5b w c 1k c w 3c k c",
   "18 1o 28 c k c k c k 1c j 3o w 1c 1w 1o 1k o 5k do 18 1n 17k h j 2ow n0 8w c 1ck 10 7n 3w 7b",
   "dk 6s q0 468 c 358 2dc 5tk z aw c z8 24c 28 1c 1a o 1z 2k co n c 1z c z io 2n o 4z m 7o 3b 2c",
   "n 2c n 2c n 2c n 2c n 2c n 2c n 2c n ay vk bn 8w n tw 4b 1zk 8z 48 1z 1k 10 8k 30 1m o k 1o w",
   "1o 18 n so z y w 10 k u0 k 1c 1z ec n vc n g0 c8 o 3n f0 w n g0 5k 9c 18 go 58 40 1k 1jo 1k x0",
   "w ac k 1p1c lk 5p5o 1b ik 3b 2xo 18 9c 6z fo 1m k 3m w a0 y qo y 20 2z bk y0 k s0 6z 5o m 10 m",
   "1c m 8c y c 1k m 1b 2o v 2b hc 1k 2z mo y 2z 40 2b 6a 4c m co 2y 8c 3y o 3z a0 1b 1a g0 m o 1m",
   "o y 5c n 3o 1n 2c m 8c n do 2a o y o y 3b 10 m 2o m c z 3c z ao m h0 m c 1a o y 1o y c m c 8b",
   "5o y 2o m 3n 20 z 20 z 20 3b 2c n 2c n jc w 1n 130 m o m 1c m z 3c 2b 2vg0 4b 7o 1n gc 1n 29m0",
   "z zc cz 2c 4b 1o 1z d m 3d h 4d n 1p n d n p n p n 3d 12e 5c 3d2 68 le o i2 2c k az 4e 18 5m",
   "3k 2b 5m aw i k i n k i 38 j w t 18 n k v k 1n 1q n 192 z l n w 17 1w h i h u 3g i 28 8o 28 8o",
   "3w to 1b 20 z 20 z 20 z 10 1b v 18 v n 2k 3n 1w z 40 n 8o n 6c n o n 50 z 4o bn 150 1z c k c",
   "1n f0 1b 30 pw o n 4k 1b k fz f0 m 17n 9o 1b gc 5b m 94 1n c0 3b a0 1z co 1y 1z a0 n cc 1n 4o",
   "eb 1go z 3c 2b c0 1n c0 1n dc 2z hc 3z 40 n 50 n 2c n o n 3o n 50 n 2c n o 1b hc 4b 2vo 3b 7c",
   "3n 2o 8b 20 n e0 n 30 nb 21 z d n ep n p 1b d z 7p n o1 2z 31 gb 6d n p 1z b1 1b k 8p 1z d 8o",
   "cz ip 1n 6p z fp 1a n y 1z 1m 1d n 11 n 9p z 1a 1n m 31 2n 31 2n ld az cd y 1n 41 3b i1 1b 2k",
   "7d z 91 1z 8p 2n 1d 4b 2d qz od in h1 4n h1 2n 21 c2 1m 2z 3f 2b co 1b 9o 2z o 1xn af n e1 n y",
   "d z p 5n 20 2z 30 bb 20 dd 2z 7e 3y 32 7n 61 1m 1d cz 9d 6z 7p 3b c m i0 5a 2c 1n 6w 3c m o y",
   "c 3b 1a gc 1m o y 2c m 3n c z 8c 2n 3c 2b 1a c0 1y c 2y n 60 2z bo m 10 3b y hc 3a 3c 1m o m",
   "5c n 6o 3z 60 n 9c 1a o m c y 20 m 10 kz 2c n c n 1c n 50 n 3o 2b fo m 10 2y 1z 3c 2b y o n 2o",
   "z o z 7c n 2c n o n 1o n y 10 m 1c z o z 10 z c 2b c 1z 2c z 2m 1b 1y 3z 3c n c z c n co n 3c",
   "n c z c n 1c n 3c n o 2z o 9z io 2y o 1a c m 70 n c m 10 ab h0 2a c m 1c y c y 1c 2z 3c 1jn go",
   "1m z 1c y c y 90 y bn h0 2y o m c y 1c 3z 3c 2b 4k 6n ec m c m o 2a c m o 2b 3c 2b 6o 9n 90 z",
   "1a o 1m c 1y 1n 7o 1pz fo 3a c y c xn ro 4b 2o z c z 2o n o n a0 n o z y c m 1c m 10 3b 3c nn",
   "2o z e0 1m z y 1c m 1c 9b c 2a o y dc 2a o 1m 2o m 2z c 2a o 1a fc 4m c y 30 4n oc 2n 3c sz 2o",
   "tn bc 4z 3c 2b 30 n co 2m n 2a 2o 3n 9o 1b ao z 7m n c 2m c y c y on 2c n o n co 2a 1b m n y n",
   "2m c m 2z 3c 2b 20 n o n cc n y n o m c m c 2n 3c 2b eo 1n 3c 2ab 6c y 1c 2n 5o n do 1b 9o sn",
   "c 5b 70 2w 1j 5w 4n 8jo yb 110 n 1o 3z 1tc oez x0 4n a0c 2n 7c 3n 10zo 1z 5ec 1rcn jc g2b 59o",
   "2n ac n 3c 1n r0 n 3c 2b a0 z 1y c 3n g0 2m 50 3n 3c n 2c n 70 1z 6c 40b jc 1ub uc 1z 8c z 8c",
   "ez p0 1n m io 2n 1m 4c ln o k c m 3z 2c 3b 1wco dz ao wn 12c 28kn 1c n 2c n o n 2p0 5b c 9z 10",
   "z c 4z 1c 2z 3o0 ldn zo 1z 4c 1b 30 2n 3c z c y c 1l 10ez 2cc 1b 41c 2b 7o 5b 5o 5b fm z 7y 3b",
   "12o kb 2a0 3n d0 z ko 1a 30 2x 2y o 2m a0 1m jo w 7b m8 1a k 14z 6o 4b 6o 4b t8 3b 8c 19b sc n",
   "no n o z c z o z 1c n 40 n c n 2c n lo n 1c z 2o n 2c n 9c n 1c n 1o n c 1b 2c n 35c z h0 k j0",
   "k j0 k j0 k j0 k 2o z gs 4qo im 1c gy 2o m 4o m 2c 5b 1y n 5a a8b ac 2b 20 1zb 2m n 5y z 2m n",
   "y n 1y 1z ko bb c 11n f0 1b 2m 2c z 3c 1n o 2yz a0 m 5z eo 1m 3c 1z j 4az e0 1zn ec 1n c 1sb",
   "ac n 7c 2z o 22z 2c n 1c n o n 50 n 1tp z 31 2m dz mp 2m d 1n 3d 1n p 79z mq pn ke 1sz 1e n 92",
   "n q n e z e n 3e n 1e n e n e 2b e 1n e n e n e n 12 n q n e z e n e n e n e n e n q n e z 1e",
   "n 2e n 1e n 1e n e n 3e n 5q 1z 12 n 1q n 5q hn w 2ib ew 1n xk 4b 58 z 58 n 58 n ck 3n 3s 1w",
   "ac k jc 28 kc k iz 9o 4n eo 1n 30 2n o 4z 28 1fn 94k 1b 5w 1b 4k 1b 20w 2b 48 1n k 5b 48 1n iw",
   "2z 3k 2b dk 2z a8 z 48 1n w 4z 38 db 36w 2z 4w z 4k 1b 3w 1b j8 n k 1n 5k z 48 1n 3k 2n 1d8 n",
   "ik cc 3g c 9jb azk0 az 14ko z 1hgo z 1x70 5b 5rc mub 50o dyb 19qc 1z 26m0 51ylb l ab w9 16z",
   "28a gq8b guso z guso z"]

/-- A run of `n` code points of the `k`-th joining type is the number `6 * n + k`. -/
def joiningRuns : List String :=
  ["su 7 2r0 ip 19u 17 17u 7j 6 7 6 d 6 d 6 7 c0 1v 6 7 i 8 6 s 8 a 8 a w s 28 b 18 a e 3j 2c e 7",
   "m 6 m 2q 34 6e a e 1m 8 a 8 a e g 6 a 17 c 11 c d 6 p g 1o k c 8 2i 7 a 7 k y q a 1k a 8 a 8 a",
   "e a 4j c a 1w m 2k g q a 8 g k g 12 6c 1v 46 5k 1j 10 b c 7 40 p 6 1j 6 j 6 v 30 a w g 8 a 1q",
   "a 8 m j o 8 6 q 6 a 8 g u 3a n 8 c w a 8 16 1j 1q m 6 a e g 12 a 2k 6 41 6 5d 96 7 6 7 o 1d o",
   "7 i 17 1o d 4u 7 9o 7 o p 1c 7 3c d 4c 7 c d 9i 7 o d o d c j i 7 50 d i 7 1u d 9i 7 o v 6 d o",
   "7 3c d 3o 11 6 7 9o 7 c 7 6 p 1c 7 16 d 1u d 50 7 a6 7 20 7 8c 7 i 7 96 7 6 j u j 6 p 16 d 1u",
   "d 4u 7 9o 7 c 7 10 7 u d 3c d 4o d 9i d o p 1c 7 3c d 4u 7 c0 7 16 j 6 7 f0 7 c 17 20 1d gc 7",
   "c 1j 1u 17 c6 d 4i 7 6 7 6 7 96 2d 6 v 6 d u 1v 6 61 1i 7 h0 p 6 11 6 d c d 46 d o j 2o p 26 7",
   "c d 10 7 2i 7 396 j 4do j 4u d 50 d 50 d ao d 6 17 1c 7 c 1v 1i 7 6u 8 c b j 6 7 2o ew 20 d 5q",
   "7 8 ji j o d 1i 7 10 j 10i d c 7 9o 7 6 17 6 7 6 7 c 1d 10 1p c 7 80 7p c 21 3c p 80 7 6 v 6 7",
   "u 7 6o 1j 20 d 5c p c d 6 j 9c 7 6 d i 7 6 j 9o 1d c d pc j 6 27 6 17 o 7 10 7 i d x0 ap 2f6 7",
   "6 b d 4c v 86 v u 11 g0 5j e7o j ni 7 g0 5d 2kc p hu d 3vnc p 6 1p 5c d dc d 19c 7 i 7 o 7 46",
   "d u 7 36 8e 9 di d 4c 31 26 7 6c 1d 46 1v 7o j 80 7 c p c d 6i 7 b6 11 c d c d 20 7 1c 7 7u 7",
   "8i 7 6 j c d u d 6 7 70 d 1c 7 13o 7 c 7 o 7 2luo 7 3eu 2p 2o 2p yi 7 15i j 2di 7 11o 7 ou v",
   "7qc j 6 d u p 6o j o 7 lc w a 6 a 6 g c 9 y q 9 w a k a c a d o q a o0 8 a 8 m k a e a 8 g 8 a",
   "3u s e 1k6 9 5k a 8 p au v 1gu d 3i a e 6 e 8c 11 80 k a 2w 6 1v k a 4i q g 22 p 70 8 6 e m 6",
   "8 g e a e 6 8 g 8 o a 8 9 8u 7 90 2j 6u 7 c d 1o j 86 p c d 16 7 a6 j 60 v 6 1d ac 7 20 d 8o",
   "1j 1o p c 7 fu j c 7 6 d 10 7 c 7 q6 7 i 1d 3i d 9i d i 7 66 17 i v bo 11 26 7 6 7 6 7 2c d e6",
   "1d c j 6 7 3u 7 e0 11 6 7 o d 6 d 13o p 10 d 6 d 4i d e6 1d c 7 6 d ho 7 6 7 c 11 6 7 gu 7 6 7",
   "c p 6 v 176 1j 6 d 16o d 6 7 o 7 o0 p c d o 7 5c 1p 6o 11 c p 1c 7 1i 11 c j 7o 27 6 d x0 7 6",
   "j 6 7 xi 17 6 11 6 7 do 3p c 17 6 d 6 d kc 11 i 7 6 d 6 17 6 7 c0 d i 7 6 7 1lu d 1u d 8o v u",
   "7 6 7 3u 7 oou 2v 10 2j 1h2o 21 i j bk0 v 9u 17 4uo 7 ai p di 7 2ixc d 6 p lrc 7p c 3v 2io j",
   "1i 2p c 17 50 p oo j 95u 97 o 8d 1c 7 2c 7 3o v 6 2j 6ao 17 6 2v c 17 6 d 6 v go 7 qo 17 1qi 7",
   "a6 p 2co p 16c d 14i 7 c 7 16 d u 7 270 17 6u be 1d 2tvsu 7 50 g1 lc 141 p7xc"]

end Gatehouse.Unicode
