/-!
# Packed general categories

The general category of every code point, as runs in code point order. Numbers are written in
base 36 with blanks between them.
-/

namespace Gatehouse.Unicode

/-- A run of `n` code points of the `k`-th category is the number `30 * n + k`. -/
def categoryRuns : List String :=
  ["rd 1g 2z 1d 2z 17 18 1b 1c 1b 16 25 8k 25 30 25 lo 17 1b 18 1e 15 1e lp 17 1c 18 1c s7 1g 1b",
   "3v 1f 1b 1e 1f y 19 1c 1k 1f 1e 1f 1c 1y 1e v 25 1e 14 y 1a 2s 1b j6 1c 5u k1 1c 6p u v u v u",
   "v u v u v u v u v u v u v u v u v u v u v u v u v u v u v u v u v u v u v u v u v u v u v u v",
   "u v u 1p u v u v u v u v u v u v u v u 1p u v u v u v u v u v u v u v u v u v u v u v u v u v",
   "u v u v u v u v u v u v u v u v u v u v 1o v u v u 2j 1o v u v 1o v 2i 1p 3c v 1o v 2i 2j 1o v",
   "1o v u v u v 1o v u 1p u v 1o v 2i v u v 1o 1p y u 2j 3g u w v u w v u w v u v u v u v u v u v",
   "u v u v u 1p u v u v u v u v u v u v u v u v u 1p u w v u v 2i v u v u v u v u v u v u v u v u",
   "v u v u v u v u v u v u v u v u v u v u v u v u v u v u v u v u v u v u v u v u v u 5v 1o v 1o",
   "1p u v 3c v u v u v u v u 1lj y mj f3 3w a3 c8 49 6e x 1e x eq 2lh u v u v x 1e u v 2h x 2j 1b",
   "u 45 28 u 1b 2i 1n u 1n 1o v e6 1n 7i t7 u 1p 2i 2j u v u v u v u v u v u v u v u v u v u v u",
   "v u 47 u v 1c u v 1o 1p 16i 141 u v u v u v u v u v u v u v u v u v u v u v u v u v u v u v u",
   "v u v 1f 4b 1v u v u v u v u v u v u v u v u v u v u v u v u v u v u v u v u v u v u v u v u v",
   "u v u v u v u v u v u v u v 1o v u v u v u v u v u v u 1p u v u v u v u v u v u v u v u v u v",
   "u v u v u v u v u v u v u v u v u v u v u v u v u v u v u v u v u v u v u v u v u v u v u v u",
   "v u v u v u v u v u v u v u v u v u v u v u v u v u v u v u v 1n vo 2h x 5h y7 1b 16 2h 29 1d",
   "1n 11n 16 z 1b 1t 1b 1t 1b z 7h mm 45 3g 25 9z 5q 30 25 1d 25 29 9b 1b 1k 2z qs x 8g hn 8k 3t",
   "1s z 2am 1b y 5z 1k 1f 55 1r 1t 1f 3h 1s 8k 2m 29 y c5 1n 1k y z p4 mn 2h 22a 9b y ch 8k rm 7n",
   "1r 1f 2z x 2h z 27 ig 3h x 7n x 2n x 4b 2h cz 1n ky 2n 2h 1b 1n 9a 4z k4 1e 5y 2e 4z y 6t ya x",
   "k5 1k qt 10 194 z 10 z y 2o 6t 3i z 1u y 5z 8g 1t 25 8k 1b x cm z 1u 1n 6s 2h 1s 2h ig 1n 5y",
   "1n y 3b 3g 2h z y 2o 3h 2h 1u 2h 1u z y 7h 10 45 1s 1n 2m 1t 2h 8k 1s 27 5a 1f 1d y 1b z 2h 1t",
   "10 1n 54 45 1s 2h ig 1n 5y 1n 1s 1n 1s 1n 1s 2h z 1n 2o 1t 45 1t 2h 2n 3b z 6n 3g 1n y 6n 8k",
   "1t 2m z 1b 95 1t 10 1n 7m 1n 2m 1n ig 1n 5y 1n 1s 1n 4a 2h z y 2o 4b 1n 1t 10 1n 1u z 2h y db",
   "1s 1t 2h 8k 1b 1d 6n y 55 1n z 1u 1n 6s 2h 1s 2h ig 1n 5y 1n 1s 1n 4a 2h z y 10 z 10 3h 2h 1u",
   "2h 1u z 6n 1t 10 45 1s 1n 2m 1t 2h 8k 1f y 5a 95 z y 1n 54 3b 2m 1n 3g 3b 1s 1n y 1n 1s 3b 1s",
   "3b 2m 3b a4 45 1u z 1u 3b 2o 1n 2o z 2h y 5t 10 ch 8k 2s 5l 1d 1f 4z z 2o z 6s 1n 2m 1n ja 1n",
   "dg 2h z y 2n 3i 1n 2n 1n 3h 6n 1t 1n 2m 1n 1s 2h 1s 1t 2h 8k 6n 1b 64 1f y z 1u 1b 6s 1n 2m 1n",
   "ja 1n 8g 1n 4a 2h z y 10 z 4c 1n z 1u 1n 1u 1t 6n 1u 4z 2m 1n 1s 1t 2h 8k 1n 2m at 1t 1u 7m 1n",
   "2m 1n ya 1t y 2o 3h 1n 2o 1n 2o z y 1f 45 2m 10 64 2m 1t 2h 8k 7s 1f 54 1n z 1u 1n f4 3b k4 1n",
   "7m 1n y 2h 5y 3b z 45 2o 2n 1n z 1n 6u 5t 8k 2h 1u 1b at 144 z 1s 5z 45 1d 54 x 6t 1b 8k 25 vn",
   "1s 1n y 1n 4a 1n k4 1n y 1n 8g z 1s 7n y 2h 4a 1n x 1n 55 y 1n 8k 2h 3g rh y 33 cz 1f 1b 33 1t",
   "5l 8k 8m 1f z 1f z 1f z 17 18 17 18 1u 6s 1n u4 45 bt 10 4b 1b 1t 4a 9b 1n u5 1n 79 z 5l 1n 29",
   "4n 3x 25 vn zy 1u 3h 10 55 10 1t 1u 1t y 8k 5h 54 1u 1t 3g 2n y 2o 1s 60 2m 3h ay z 1u 1t 56 z",
   "y 10 8k 2o z 29 vo 1n u 4z u 2h zv 1b x 2j 7ma 1n 3g 2h 5y 1n y 1n 3g 2h ya 1n 3g 2h rm 1n 3g",
   "2h 5y 1n y 1n 3g 2h cm 1n 1bm 1n 3g 2h 1jy 2h 2n 7z gy 3b dg 8x 5t 1zo 2h 51 2h 16 ecs 1f 1b",
   "ea 1g ls 17 18 3b 1qm 2z 2r 6s 6n f4 2n 10 8b fy 1t 10 25 8b f4 1t at ay 1n 2m 1n 1t at 17g 1t",
   "10 5z 6u z 1u 9b 2z x 2z 1d y z 2h 8k 5t 8m 5t 5h 16 3t 2n 1k z 8k 5t ta x 18a 6n 4a 1t sg z y",
   "4z 1mg 95 py 1n 2n 3i 1t 2o 45 1u z 56 2n 45 1f 3b 25 8k p4 2h 4a 9z 10s 45 ls 5t 8k 14 3b sx",
   "ja 1t 1u z 2h 25 18a 10 z 10 5z 1n z 10 z 1u 6t 56 8h 2h z 8k 5t 8k 5t 6b x 5h 2h bt 11 dh cm",
   "2h a4 hh 3h 10 13a z 10 4b 10 z 4c z 1u 6s 1n 1s 8k 6b 8x 7n 83 25 y 1t 10 p4 10 3h 1u 1t 10",
   "2n 1s 8k 10s z 10 1t 2o z 10 2n 1u 7h 3t u4 6u 6t 1u 1t 3b 4n 8k 3b 2m 8k p4 53 25 7j 1s 4z zu",
   "2h 2i 75 7h 2n 1b az 10 5z 3g z 54 z 1s 10 1t y 4z 10p 1gl av x sd ux 1hh u v u v u v u v u v",
   "u v u v u v u v u v u v u v u v u v u v u v u v u v u v u v u v u v u v u v u v u v u v u v u",
   "v u v u v u v u v u v u v u v u v u v u v u v u v u v u v u v u v u v u v u v u v u v u v u v",
   "u v u v u v u v u v u v u v u v u v u v u v u v u v u v u v u v u v u v u v u v u v u v u 7j u",
   "v u v u v u v u v u v u v u v u v u v u v u v u v u v u v u v u v u v u v u v u v u v u v u v",
   "u v u v u v u v u v u v u v u v u v u v u v u v u v u v u v u v u v u v u v u v u v u v u v u",
   "v u 7j 6o 51 2h 50 2h 6p 6o 6p 6o 51 2h 50 2h 6p 1n u 1n u 1n u 1n u 6p 6o bp 2h 6p 6q 6p 6q",
   "6p 6q 47 1n 1p 3c w 1e v 32 2j 1n 1p 3c w 32 3d 2h 1p 3c 1n 32 6p 46 32 2h 2j 1n 1p 3c w 28 1n",
   "9s 4w 5c 25 19 1a 17 23 1a 17 19 75 1h 1i 4w 1g 7z 19 1a 3t 1z 2z 1c 17 18 9n 1c 1b 15 8t 1g",
   "4w 1n 92 14 x 2h 5a 30 17 18 x 8m 30 17 18 1n ax 3b s1 y ch az 3j z 2p a5 db 29 u 3x u 29 v 2i",
   "1p 2i v 1f u 29 1c 46 5l u 1f u 1f u 1f 3c 1f v 3c v 3g v 29 1p 1o 4o u 3d 1f 1c 29 v 1f dm tf",
   "u v 3l 14 29 45 4o 4r 26 3x 1c 29 1c 29 1c 6f 1c qf 26 29 1c 1f 1c qf 67u 79 17 18 17 18 h9 26",
   "6f 17 18 1w3 1c pl lc xx 5i 1m3 2m j5 9r ib 1ea 1tl im 493 1c 83 1c 19l 76 2l3 1c 5r9 17 18 17",
   "18 17 18 17 18 17 18 17 18 17 18 pa 119 4o 17 18 qc 17 18 17 18 17 18 17 18 17 18 du 5xx 31o",
   "17 18 17 18 17 18 17 18 17 18 17 18 17 18 17 18 17 18 17 18 17 18 1h0 17 18 17 18 r6 17 18 5zi",
   "14l i0 29 5i x3 2h r9 y 2g3 140 141 u v 2i 1p u v u v u v 3c v u 1p u 51 1r 2i v u v u v u v u",
   "v u v u v u v u v u v u v u v u v u v u v u v u v u v u v u v u v u v u v u v u v u v u v u v",
   "u v u v u v u v u v u v u v u v u v u v u v u v u v u v u v u v u v u v u v u v u v u 1p 5l u",
   "v u v 2n u v 4z 3t 14 25 vp 1n v 4z v 2h 1as 6n x 1b ch z ja 8b 5y 1n 5y 1n 5y 1n 5y 1n 5y 1n",
   "5y 1n 5y 1n 5y 1n qt 25 19 1a 19 1a 2z 19 1a 1b 19 1a 7z 16 25 16 1b 19 1a 25 19 1a 17 18 17",
   "18 17 18 17 18 4n x 8t 20 3t 16 1b 17 bb 29 2z 17 18 17 18 17 18 17 18 16 t5 m9 1n 22r at 4yx",
   "mh al 45 1g 2z 1f x y 13 17 18 17 18 17 18 17 18 17 18 29 17 18 17 18 17 18 17 18 16 17 22 1f",
   "7r 3h 1u 16 49 29 2r x y 1b 29 1n 1zs 2h 1t 28 1r y 16 234 1b 2l y 4z zy 1n 26g 1n 29 3m 8x qs",
   "ul 1s 95 dg qf 1n 8m pl 6y 1f cs r9 8m x3 cs 7f9 48lg 1hx diey x qgm 3b 1af 8b xg 53 25 67g x",
   "2z dg 8k 1s hh u v u v u v u v u v u v u v u v u v u v u v u v u v u v u v u v u v u v u v u v",
   "u v u v u v y z 2p 1b 8h 1b x u v u v u v u v u v u v u v u v u v u v u v u v u v u v 1r 1t",
   "1mg 8l 1t 5h 7h jq 7l 28 u v u v u v u v u v u v u 2j u v u v u v u v u v u v u v u v u v u v",
   "u v u v u v u v u v u v u v u v u v u v u v u v u v u v u v u v u v u v u v u v u v x 6p u v u",
   "v 1o v u v u v u v u v x 28 u v u v y u v u 2j u v u v u v u v u v u v u v u v u v u v 46 v 46",
   "v u v u v u v u v u v u v u v 3c v u v 4a u v y v y v u v u v 2m hh y 2l u v y 1r v 5y z 2m z",
   "3g z ja 1u 1t 10 3x z 3b 5a 29 1d 1f 5t 17g 3t 7h 1u 15s di 1t 7h 25 8k 5t f5 54 2z y 1b 1s z",
   "8k ng 6t 25 ja 9b 1u 9z 1b oa 3b 2n 10 13a z 1u 3h 1u 1t 2o bb 1n x 8k 45 25 4a z x 7m 8k 4a",
   "1n ya 55 1u 1t 1u 1t 8b 2m z 6s z 10 2h 8k 2h 3t dg x 54 33 y 10 z 10 15s z y 2n 1s 1t 4a 1t y",
   "z y kt 1s x 25 9a 10 1t 1u 25 y 1r 10 z 95 54 2h 54 2h 54 8b 5y 1n 5y 1n zv 1e 3f 7j x 28 45",
   "1up ta 1u z 1u z 1u 1b 10 z 2h 8k 5t 76m4 at ja 45 14y 45 1bff 4464 8h4 2h 2gg wh 5v at 47 4z",
   "y z 8g 1c ay 1n 4a 1n y 1n 1s 1n 1s 1n 2i4 eq 8ry 18 17 dx 2xy 1f rh a4 1d 33 dh 6b 17 18 1b",
   "5t dh 1b 20 1z 17 18 17 18 17 18 17 18 17 18 17 18 17 18 17 18 25 17 18 3t 2t 2z 1n 3t 16 17",
   "18 17 18 17 18 2z 1c 16 30 1n 1b 1d 25 45 4a 1n 34m 2h 1k 1n 2z 1d 2z 17 18 1b 1c 1b 16 25 8k",
   "25 30 25 lo 17 1b 18 1e 15 1e lp 17 1c 18 1c 17 18 1b 17 18 25 8g x 11m 1r py 3b 54 2h 54 2h",
   "54 2h 2m 3b 27 1c 1e 1f 27 1n 1f 3u 29 95 38 29 2h a4 1n ls 1n fy 1n 1s 1n cm 2h bs t5 2um 4z",
   "2z 45 11s 3b 83 18f 3m er 1y 33 1n bf 3b 1f 13z 123 z 315 oa 3b 14y db z ms 45 qs 3m 8b gs 13",
   "6s 13 4z vs 4b 4z p4 1n 1b u4 45 6s 1b 4f zt xc xd 1t4 2h 8k 5t u0 45 u1 45 xg 7h 17g 9z 1b 96",
   "1n ci 1n 5u 1n 1o 1n 97 1n cj 1n 5v 1n 1p 3b 17g at 77a 8b ig 95 6s kt 53 1n z3 1n 7l 1mb 54",
   "2h y 1n 10s 1n 1s 3b y 2h ja 1n 1b 6y ja 29 64 py 7h 7s 14t fy 1n 1s 4z 4g ig 5a 3b 1b ls 4z",
   "1b ls wh 1as 45 1y 1s dm 2h 12m y 2n 1n 1t 4z 3h 3g 1n 2m 1n oa 2h 2n 45 z 7s 6n 7z 6n oa 1y",
   "1b oa 2s rh 6s 1f ng 1t 45 4g 6b 8b 194 3b 6b ig 2h 6y fy 4z 6y f4 6n 3t at 64 1vh 1oy 1an 16i",
   "bn 16j 6n 5a u4 3h 7h 8k 5t vs 3b oa 7h 1s 4u5 q4 1n z4 1n 1t 16 2h 1s e5 54 7h 7m sb ta 8m y",
   "7h ig 9b 3m 4n j5 f4 3h 3t wh hm 64 hh ja 8b 10 z 10 18a cn 6b 45 gy 8k z 1s 1t y 8b 2n 10 11m",
   "2o 3h 1u 1t 25 1k 3t z 95 1k 2h ky 6n 8k 5t 2n u4 4b 10 6t 1n 8k 3t y 1u y 7h ta z 25 y 8b 1t",
   "10 144 2o 7n 1u 3g 3t 3h 1b 10 z 8k y 1b y 2z 1n gy 9z f4 1n ky 2o 2n 1u z 10 1t 5h z 2m 1gh",
   "5y 1n y 1n 3g 1n cm 1n 8g 1b 5t 13a z 2o 6t 4z 8k 5t 1t 1u 1n 6s 2h 1s 2h ig 1n 5y 1n 1s 1n 4a",
   "1n 1t y 1u z 3i 2h 1u 2h 2o 2h y 5t 10 4z 4a 1u 2h 5z 3b 4b 9z 8g 1n y 2h y 1n vs 1n 8g 1n y",
   "2h y 1n 3g 1n 8g 1n 1s 7h 1s oz 18a 2o 6t 1u 2n 10 z 3g 4n 8k 25 1n 1b z 2m pt 144 2o 55 10 z",
   "3i 1t 10 1t 1s 1b y 7h 8k 3v5 13a 2o 3h 2h 3i 1t 10 1t jn 3g 1t t5 144 2o 6t 1u z 10 1t 2z y",
   "9z 8k 5t bb gn zy z 10 z 1u 55 10 z y 1b 5t 8k 5t gs o5 mm 2h 2n 1u 3h 10 4b 45 8k 1y 2z 1f 5y",
   "4az 10s 2o 7n 10 1t 1b 2c5 qo qp 8k 7s at 6s 2h y 2h 6s 1n 1s 1n k4 56 1n 1u 2h 1t 10 z y 10 y",
   "10 z 2z 8b 8k 1n5 6s 2h wm 2o 3h 2h 1t 3i z y 1b y 10 nb y 8h xg 55 10 y 3h 75 z 7h y 55 1u 2n",
   "12g az 10 1t 2z y 4n bn 1oy 6n 8g 20h 6s 225 sg ch 8g 5t 7m 1n uy 10 5z 1n 55 10 z y 4n 95 8k",
   "g4 3b 25 p4 2h ih 1n 10 5z 10 1t 10 1t 1pn 5y 1n 1s 1n vs 55 3b z 1n 1t 1n 5z y z 7h 8k 5t 54",
   "1n 1s 1n qs 4c 1n 1t 1n 1u z 10 z y 6n 8k 5t 10s 45 8g 5pt fy 1t 1u 25 6n ea 1n ya 3b oa 1zn y",
   "db hs 79 3v er bn 1b lcg 2dt 2kr 1n 4n 9z 4jg 1p1h 28y 25 bn otg 88 6n ig 95 2kha 4z dhy 4edn",
   "1cg 145t d6a 6n py 1n 8k 45 25 1ty 1n 8k 5t p4 2h 4b 1b 95 144 5z 4n 3x 3f 1b 1f 95 8k 1n 64",
   "1n hm 4z fy a0t 1cg 4lt qo qp jg 3t 4z ky 2h ky 11h 1qm 45 z y 1a0 6n 3h ax 1i5 1r 1b x z 9z",
   "1u 4a 8b 4qvs yz qs 29n 2ny 5lfn 3f 1n 5x 1n 1r 1n 6qm db y oz 2m 2h y ch 3g 7h 964 1hg5 2ha",
   "4z ay 3b 7m 6n 8g 2h 1f 1t 1b 42 2j1h 5uy 3b a3g 5t ja db ea db 12h 2h jb 8b 2p9 1et 5pl 95 x3",
   "2h 1el 1u 2n 33 56 7e 6t 29 5z pl 3h 1ff ib 1jl 2n 1f 2uh gs at gy at 213 8b l4 35b lo lp lo",
   "5v 1n f1 lo lp u 1n 1o 2h u 2h 1o 2h 3c 1n 6o 3d 1n v 1n 5v 1n 97 lo lp 1o 1n 3c 2h 6o 1n 5u",
   "1n lp 1o 1n 3c 1n 46 1n u 3b 5u 1n lp lo lp lo lp lo lp lo lp lo lp lo nd 2h ku 1c kv 1c 51 ku",
   "1c kv 1c 51 ku 1c kv 1c 51 ku 1c kv 1c 51 ku 1c kv 1c 51 u v 2h 15w bv9 19z 3x 15t 79 z c9 z",
   "29 4n db 4b 1n cn pkt 8d y gp 5t 54 4yb 5z 1n eb 2h 5z 1n 1t 1n 4b 4z 1fs sb y 2m5 11m 3b 5z",
   "5x 2h 8k 45 y 1f 7fh p4 z ez 10s 3h 8k 4z 1d arh z4 4z5 zy 45 y 4gt py 1n ig 7h 1s 57h 5y 1n",
   "3g 1n 1s 1n cm 1n 4ka 2h 7s 5z yz sc sd 5z x 45 8k 45 25 i6z 1dg 1f 2s 1d 3m 1s5 11s 1f cs 4ih",
   "3g 1n mm 1n 1s 1n y 2h y 1n 8g 1n 3g 1n y 1n y 5t y 45 y 1n y 1n y 1n 2m 1n 1s 1n y 2h y 1n y",
   "1n y 1n y 1n y 1n 1s 1n y 2h 3g 1n 5y 1n 3g 1n 3g 1n y 1n 8g 1n ea 4z 2m 1n 4a 1n ea 185 26",
   "69t 119 45 2bx at d3 2h d3 1n d3 1n vf 95 b4 3qr 1bh or bn 119 45 83 6n 29 ch 5l 3l5 5tr 4q",
   "gw3 3b er 3b bf 3b 529 5t al 45 1f db al 45 1b9 7h 8x 5t xx 7h pl 2h al 45 29 ch 83 xb 7z9 7h",
   "c9 2h bf 3b 9r 3b 1c3 1n 1f 45 dx 2h al 45 8x 6n 3f3 1n 1af uy 8k y nub rgw4 rh 2tfs 2h 3pns",
   "2h 4szm db eeg 1l3t cjs yvt 36by 4z 5gj4 cmwhb 1k pt 28q 2zh 5k5 15tkt 1650g 2h 1650g 2h"]

end Gatehouse.Unicode
