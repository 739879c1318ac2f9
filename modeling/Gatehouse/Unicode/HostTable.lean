/-!
# Packed mapping of host names

What becomes of each character of an international host name, as runs. Numbers are written in
base 36 with blanks between them.
-/

namespace Gatehouse.Unicode

/-- A run of `n` code points is the number `6 * n + k`. Kind 0 is kept, 1 is kept although older
rules replaced it, 2 is dropped, 3 is refused; kind 4 is followed by the one character that replaces
it, and kind 5 by the number of the characters that do and by them. -/
def hostRuns : List String :=
  ["au a 2p a 2q a 2r a 2s a 2t a 2u a 2v a 2w a 2x a 2y a 2z a 30 a 31 a 32 a 33 a 34 a 35 a 36 a",
   "37 a 38 a 39 a 3a a 3b a 3c a 3d a 3e 66 5f a w 16 b 2 w lk 6 a 2p c 8 6 b 2 w lg c a 1e a 1f",
   "b 2 w ld a qk c b 2 w mf a 1d a 33 6 b 3 1d 6dg 1g b 3 1d 6dg 1e b 3 1f 6dg 1g 6 a 68 a 69 a",
   "6a a 6b a 6c a 6d a 6e a 6f a 6g a 6h a 6i a 6j a 6k a 6l a 6m a 6n a 6o a 6p a 6q a 6r a 6s a",
   "6t a 6u 6 a 6w a 6x a 6y a 6z a 70 a 71 a 72 7 5c a 75 6 a 77 6 a 79 6 a 7b 6 a 7d 6 a 7f 6 a",
   "7h 6 a 7j 6 a 7l 6 a 7n 6 a 7p 6 a 7r 6 a 7t 6 a 7v 6 a 7x 6 a 7z 6 a 81 6 a 83 6 a 85 6 a 87",
   "6 a 89 6 a 8b 6 a 8d 6 a 8f 6 b 2 2x lj 6 h 2 2x 2y a 8l 6 a 8n c a 8q 6 a 8s 6 a 8u 6 h 2 30",
   "53 a 8y 6 a 90 6 a 92 6 a 94 6 b 2 jg 32 a 97 6 a 99 6 a 9b 6 a 9d 6 a 9f 6 a 9h 6 a 9j 6 a 9l",
   "6 a 9n 6 a 9p 6 a 9r 6 a 9t 6 a 9v 6 a 9x 6 a 9z 6 a a1 6 a a3 6 a a5 6 a a7 6 a a9 6 a ab 6 a",
   "ad 6 a af 6 a 73 a ai 6 a ak 6 a am 6 a 37 6 a gj a ar 6 a at 6 a gk a aw 6 a gm a gn a b0 c a",
   "d9 a gp a gr a b6 6 a gw a gz 6 a h5 a h4 a bd i a hb a he 6 a hh a bl 6 a bn 6 a bp 6 a hs a",
   "bs 6 a hv c a bx 6 a i0 a c0 6 a i2 a i3 a c4 6 a c6 6 a ia a c9 i a cd 16 n 2 2s am n 2 30 2y",
   "n 2 32 2y a cu 6 a cw 6 a cy 6 a d0 6 a d2 6 a d4 6 a d6 6 a d8 c a db 6 a dd 6 a df 6 a dh 6",
   "a dj 6 a dl 6 a dn 6 a dp 6 a dr c n 2 2s 3e a dx 6 a b9 a cf a e1 6 a e3 6 a e5 6 a e7 6 a e9",
   "6 a eb 6 a ed 6 a ef 6 a eh 6 a ej 6 a el 6 a en 6 a ep 6 a er 6 a et 6 a ev 6 a ex 6 a ez 6 a",
   "f1 6 a f3 6 a bi 6 a f7 6 a f9 6 a fb 6 a fd 6 a ff 6 a fh 6 a fj 6 a fl 6 a fn 16 a 8rp a fw",
   "6 a be a 8rq c a g2 6 a ao a i1 a i4 a g7 6 a g9 6 a gb 6 a gd 6 a gf g6 a 2w a h2 a 2y a 36 a",
   "hl a hn a ht a 3b a 3d 56 b 2 w li b 2 w lj b 2 w lm b 2 w mg b 2 w lf b 2 w ln c a gz a 30 a",
   "37 a 3c a id f6 a lc a ld 6 a lv b 2 lk ld a qh 1i 8 5c a oh 6 a oj 6 a jd 6 a on 6 f b 2 w qh",
   "i a 1n a s3 r b 2 w ld b 3 w lk ld a q4 a 53 a q5 a q6 a q7 9 a r0 9 a r1 a r2 6 a q9 a qa a",
   "qb a qc a qd a qe a qf a qg a qh a qi a qj a qk a ql a qm a qn a qo a qp 9 a qr a qs a qt a qu",
   "a qv a qw a qx a qy a qz 3o 7 20 a rb a qa a qg a qt a r1 a qz a qu a qo 6 a rd 6 a rf 6 a rh",
   "6 a rj 6 a rl 6 a rn 6 a rp 6 a rr 6 a rt 6 a rv 6 a rx 6 a rz 6 a qi a qp a qr 6 a qg a qd 6",
   "a s8 6 a qr a sb c a or a os a ot a uo a up a uq a ur a us a ut a uu a uv a uw a ux a uy a uz",
   "a v0 a v1 a v2 a v3 a ts a tt a tu a tv a tw a tx a ty a tz a u0 a u1 a u2 a u3 a u4 a u5 a u6",
   "a u7 a u8 a u9 a ua a ub a uc a ud a ue a uf a ug a uh a ui a uj a uk a ul a um a un 80 a v5 6",
   "a v7 6 a v9 6 a vb 6 a vd 6 a vf 6 a vh 6 a vj 6 a vl 6 a vn 6 a vp 6 a vr 6 a vt 6 a vv 6 a",
   "vx 6 a vz 6 a w1 1i a wb 6 a wd 6 a wf 6 a wh 6 a wj 6 a wl 6 a wn 6 a wp 6 a wr 6 a wt 6 a wv",
   "6 a wx 6 a wz 6 a x1 6 a x3 6 a x5 6 a x7 6 a x9 6 a xb 6 a xd 6 a xf 6 a xh 6 a xj 6 a xl 6 a",
   "xn 6 a xp 6 a xr 6 a y7 a xu 6 a xw 6 a xy 6 a y0 6 a y2 6 a y4 6 a y6 c a y9 6 a yb 6 a yd 6",
   "a yf 6 a yh 6 a yj 6 a yl 6 a yn 6 a yp 6 a yr 6 a yt 6 a yv 6 a yx 6 a yz 6 a z1 6 a z3 6 a",
   "z5 6 a z7 6 a z9 6 a zb 6 a zd 6 a zf 6 a zh 6 a zj 6 a zl 6 a zn 6 a zp 6 a zr 6 a zt 6 a zv",
   "6 a zx 6 a zz 6 a 101 6 a 103 6 a 105 6 a 107 6 a 109 6 a 10b 6 a 10d 6 a 10f 6 a 10h 6 a 10j",
   "6 a 10l 6 a 10n 6 a 10p 6 a 10r 6 a 10t 6 a 10v 6 9 a 129 a 12a a 12b a 12c a 12d a 12e a 12f",
   "a 12g a 12h a 12i a 12j a 12k a 12l a 12m a 12n a 12o a 12p a 12q a 12r a 12s a 12t a 12u a",
   "12v a 12w a 12x a 12y a 12z a 130 a 131 a 132 a 133 a 134 a 135 a 136 a 137 a 138 a 139 a 13a",
   "f 7o b 2 12d 136 i f i 9 96 1f 4i r 10 2x 3o 9 eo b 2 17r 19w b 2 18o 19w b 2 1c7 19w b 2 18q",
   "19w go 9 80 f 9u f gu 2f 9u f 86 f 2i 9 4o f 6 9 1u x 5c 19 ci 9 ji b 2 1sl 1to b 2 1sm 1to b",
   "2 1sn 1to b 2 1ss 1to b 2 1sx 1to b 2 1sy 1to b 2 1t7 1to b 2 1tb 1to 60 9 1c f c f 3o 9 16 9",
   "6 l o f 1i f c f o 1f 6 r b 2 1wh 1x8 b 2 1wi 1x8 9 b 2 1wv 1x8 o f 46 f i 9 10 r c f 3o 9 16",
   "9 6 b 2 20i 20s 9 6 b 2 20o 20s 9 c f 6 9 u r c f i l 6 19 b 2 1zq 20s b 2 1zr 20s b 2 1zw 20s",
   "6 9 b 2 20b 20s 19 2u 1r i 9 1i 9 i 9 3o 9 16 9 c 9 u f 1o 9 i 9 i f 6 2l o f 20 19 16 9 i 9",
   "1c f c f 3o 9 16 9 c 9 u f 1i f c f i 19 i r b 2 275 27w b 2 276 27w 9 u f 30 1r c 9 10 l i 9",
   "o l c 9 6 9 c l c l i l 20 r u l i 9 o f 6 13 6 2f 3i x 26 9 i 9 3u 9 2o f 1i 9 i 9 o 19 c 9 i",
   "9 c f o f 1o 19 3o 9 i 9 3u 9 1o 9 u f 1i 9 i 9 o 19 c x i 9 o f 1o 9 i 23 26 9 i 9 8i 9 i 9",
   "10 r 2o f 4c 9 i 9 30 l 40 9 1i 9 6 f 16 l 6 r 10 9 6 9 1c 13 1o f i 23 8c b 2 2tp 2sy 16 r 4u",
   "69 c 9 6 9 u 9 40 9 6 9 20 b 2 2x9 2wi 1o f u 9 6 9 16 9 1o f b 2 2wb 2vt b 2 2wb 2w1 c 5f 20",
   "a 2yz 90 b 2 30i 33r o 9 o b 2 30s 33r o b 2 30x 33r o b 2 312 33r o b 2 317 33r 20 b 2 30g",
   "33p i r c b 2 31t 31u 6 b 2 31t 31w b 2 33m 328 b 3 33m 31t 328 b 2 33n 328 b 3 33n 31t 328 16",
   "b 2 31t 328 2u b 2 32q 33r o 9 o b 2 330 33r o b 2 335 33r o b 2 33a 33r o b 2 33f 33r 20 b 2",
   "32o 33p i 9 2i 9 26 69 qo a 8w0 a 8w1 a 8w2 a 8w3 a 8w4 a 8w5 a 8w6 a 8w7 a 8w8 a 8w9 a 8wa a",
   "8wb a 8wc a 8wd a 8we a 8wf a 8wg a 8wh a 8wi a 8wj a 8wk a 8wl a 8wm a 8wn a 8wo a 8wp a 8wq",
   "a 8wr a 8ws a 8wt a 8wu a 8wv a 8ww a 8wx a 8wy a 8wz a 8x0 a 8x1 9 a 8x3 x a 8x9 f 7c a 3bw",
   "gc e 12o 9 o f 16 9 6 9 o f 6u 9 o f 5i 9 o f 16 9 6 9 o f 2i 9 9i 9 o f b6 f 5c l 4c 13 ec f",
   "a 3xs a 3xt a 3xu a 3xv a 3xw a 3xx f 2yo 9 4o l eu 19 3o 1l 40 1l 3c 23 26 9 i 9 c 23 8o e 6o",
   "f 1o 13 1o 13 1u w 1o 13 eu 19 76 x bo 1r 56 9 20 r 20 r 6 l 70 f u 1x 7c r 4c 13 1u l ac f au",
   "9 4u f 1u 13 1o 13 2c f 7o f 20 3f cu 9 ro 1f a0 l 2i l 8i a tu a tw a u6 a u9 g ua a ui a v7",
   "a wuj a 5my 6 x a 3bk a 3bl a 3bm a 3bn a 3bo a 3bp a 3bq a 3br a 3bs a 3bt a 3bu a 3bv a 3bw",
   "a 3bx a 3by a 3bz a 3c0 a 3c1 a 3c2 a 3c3 a 3c4 a 3c5 a 3c6 a 3c7 a 3c8 a 3c9 a 3ca a 3cb a",
   "3cc a 3cd a 3ce a 3cf a 3cg a 3ch a 3ci a 3cj a 3ck a 3cl a 3cm a 3cn a 3co a 3cp a 3cq f a",
   "3ct a 3cu a 3cv 1c 1f 76 x 7c a 2p a 6e a 2q 6 a 2s a 2t a d9 a 2v a 2w a 2x a 2y a 2z a 30 a",
   "31 a 32 6 a 33 a f7 a 34 a 36 a 38 a 39 a 3b a 2p a gg a gh a 5qa a 2q a 2s a 2t a gp a gr a",
   "gs a 2v 6 a 2z a 31 a 97 a 33 a gk a 5qu a 5qv a 34 a 38 a 39 a 5r1 a hb a 3a a 5r9 a qa a qb",
   "a qc a qu a qv a 2x a 36 a 39 a 3a a qa a qb a qp a qu a qv 26 a u5 5o a gi a 2r a gl a 6o a",
   "gs a 2u a gv a gx a h1 a h4 a h5 a h6 a 5tn a il a h9 a 5tx a in a hd a hc a he a hf a hg a hh",
   "a hk a hu a hv a bv a i1 a i2 a 5r0 a i3 a i4 a 3e a i8 a i9 a ia a qg ao a 5xd 6 a 5xf 6 a",
   "5xh 6 a 5xj 6 a 5xl 6 a 5xn 6 a 5xp 6 a 5xr 6 a 5xt 6 a 5xv 6 a 5xx 6 a 5xz 6 a 5y1 6 a 5y3 6",
   "a 5y5 6 a 5y7 6 a 5y9 6 a 5yb 6 a 5yd 6 a 5yf 6 a 5yh 6 a 5yj 6 a 5yl 6 a 5yn 6 a 5yp 6 a 5yr",
   "6 a 5yt 6 a 5yv 6 a 5yx 6 a 5yz 6 a 5z1 6 a 5z3 6 a 5z5 6 a 5z7 6 a 5z9 6 a 5zb 6 a 5zd 6 a",
   "5zf 6 a 5zh 6 a 5zj 6 a 5zl 6 a 5zn 6 a 5zp 6 a 5zr 6 a 5zt 6 a 5zv 6 a 5zx 6 a 5zz 6 a 601 6",
   "a 603 6 a 605 6 a 607 6 a 609 6 a 60b 6 a 60d 6 a 60f 6 a 60h 6 a 60j 6 a 60l 6 a 60n 6 a 60p",
   "6 a 60r 6 a 60t 6 a 60v 6 a 60x 6 a 60z 6 a 611 6 a 613 6 a 615 6 a 617 6 a 619 6 a 61b 6 a",
   "61d 6 a 61f 6 a 61h u b 2 2p ji a 601 c a 67 6 a 61t 6 a 61v 6 a 61x 6 a 61z 6 a 621 6 a 623 6",
   "a 625 6 a 627 6 a 629 6 a 62b 6 a 62d 6 a 62f 6 a 62h 6 a 62j 6 a 62l 6 a 62n 6 a 62p 6 a 62r",
   "6 a 62t 6 a 62v 6 a 62x 6 a 62z 6 a 631 6 a 633 6 a 635 6 a 637 6 a 639 6 a 63b 6 a 63d 6 a",
   "63f 6 a 63h 6 a 63j 6 a 63l 6 a 63n 6 a 63p 6 a 63r 6 a 63t 6 a 63v 6 a 63x 6 a 63z 6 a 641 6",
   "a 643 6 a 645 6 a 647 6 a 649 6 a 64b 6 a 64d 6 a 64f 1i a 64g a 64h a 64i a 64j a 64k a 64l a",
   "64m a 64n 10 f a 64w a 64x a 64y a 64z a 650 a 651 f 1c a 65c a 65d a 65e a 65f a 65g a 65h a",
   "65i a 65j 1c a 65s a 65t a 65u a 65v a 65w a 65x a 65y a 65z 10 f a 668 a 669 a 66a a 66b a",
   "66c a 66d f 1c 9 a 66p 9 a 66r 9 a 66t 9 a 66v 1c a 674 a 675 a 676 a 677 a 678 a 679 a 67a a",
   "67b 6 a q4 6 a q5 6 a q6 6 a q7 6 a r0 6 a r1 6 a r2 f b 2 64g qh b 2 64h qh b 2 64i qh b 2",
   "64j qh b 2 64k qh b 2 64l qh b 2 64m qh b 2 64n qh b 2 64g qh b 2 64h qh b 2 64i qh b 2 64j qh",
   "b 2 64k qh b 2 64l qh b 2 64m qh b 2 64n qh b 2 65c qh b 2 65d qh b 2 65e qh b 2 65f qh b 2",
   "65g qh b 2 65h qh b 2 65i qh b 2 65j qh b 2 65c qh b 2 65d qh b 2 65e qh b 2 65f qh b 2 65g qh",
   "b 2 65h qh b 2 65i qh b 2 65j qh b 2 674 qh b 2 675 qh b 2 676 qh b 2 677 qh b 2 678 qh b 2",
   "679 qh b 2 67a qh b 2 67b qh b 2 674 qh b 2 675 qh b 2 676 qh b 2 677 qh b 2 678 qh b 2 679 qh",
   "b 2 67a qh b 2 67b qh c b 2 67k qh b 2 q9 qh b 2 q4 qh 9 6 b 2 69i qh a 69c a 69d a 67k a q4 b",
   "2 q9 qh b 2 w lv a qh b 2 w lv b 2 w n6 b 3 w lk n6 b 2 67o qh b 2 qf qh b 2 q6 qh 9 6 b 2 69y",
   "qh a 67m a q5 a 67o a q6 b 2 qf qh b 3 w lv lc b 3 w lv ld b 3 w lv n6 i a pc f c a 6a8 a 6a9",
   "a 67q a q7 9 b 3 w lw lc b 3 w lw ld b 3 w lw n6 i a q8 o a 6ao a 6ap a 67u a r1 a 6at b 3 w",
   "lk lc b 3 w lk ld a 2o f b 2 67w qh b 2 qx qh b 2 r2 qh 9 6 b 2 6ba qh a 67s a r0 a 67w a r2 b",
   "2 qx qh b 2 w ld b 2 w lw 9 1y w 8 d f 6 a 6c0 u b 2 w mr 20 l 6 19 a w i b 2 6cy 6cy b 3 6cy",
   "6cy 6cy 6 b 2 6d1 6d1 b 3 6d1 6d1 6d1 o b 2 x x 6 b 2 w lh 1c b 2 1r 1r b 2 1r x b 2 x 1r 26 b",
   "4 6cy 6cy 6cy 6cy 16 a w w x 12 a 1c a 2x f a 1g a 1h a 1i a 1j a 1k a 1l a 17 a 6qa a 1p a 14",
   "a 15 a 32 a 1c a 1d a 1e a 1f a 1g a 1h a 1i a 1j a 1k a 1l a 17 a 6qa a 1p a 14 a 15 9 a 2p a",
   "2t a 33 a 3c a gp a 2w a 2z a 30 a 31 a 32 a 34 a 37 a 38 l 1c b 2 36 37 46 2f 5i 2l b 3 2p 1b",
   "2r b 3 2p 1b 37 a 2r b 2 4w 2r 6 b 3 2r 1b 33 b 3 2r 1b 39 a gr 6 b 2 4w 2u a 2v s 2w a 87 g",
   "2x g 30 6 a 32 b 2 32 33 c a 34 a 35 m 36 c b 2 37 31 b 3 38 2t 30 b 2 38 31 6 a 3e 6 a qx 6 a",
   "3e 6 a 2z a 6d a 2q a 2r 6 g 2t a 2u a 6ku a 31 a 33 a 15c a 15d a 15e a 15f a 2x 6 b 3 2u 2p",
   "3c a qo g qb a qo a 6q9 o g 2s a 2t a 2x a 2y 10 b 3 1d 6dg 1j b 3 1d 6dg 1l b 4 1d 6dg 1d 1c",
   "b 3 1d 6dg 1f b 3 1e 6dg 1f b 3 1d 6dg 1h b 3 1e 6dg 1h b 3 1f 6dg 1h b 3 1g 6dg 1h b 3 1d 6dg",
   "1i b 3 1h 6dg 1i b 3 1d 6dg 1k b 3 1f 6dg 1k b 3 1h 6dg 1k b 3 1j 6dg 1k b 2 1d 6dg a 2x b 2",
   "2x 2x b 3 2x 2x 2x b 2 2x 3a a 3a b 2 3a 2x b 3 3a 2x 2x b 4 3a 2x 2x 2x b 2 2x 3c a 3c b 2 3c",
   "2x b 3 3c 2x 2x a 30 a 2r a 2s a 31 a 2x b 2 2x 2x b 3 2x 2x 2x b 2 2x 3a a 3a b 2 3a 2x b 3",
   "3a 2x 2x b 4 3a 2x 2x 2x b 2 2x 3c a 3c b 2 3c 2x b 3 3c 2x 2x a 30 a 2r a 2s a 31 i a 6mc u b",
   "3 1c 6dg 1f c r q0 b 2 6qz 6qz b 3 6qz 6qz 6qz 6 b 2 6r2 6r2 b 3 6r2 6r2 6r2 15c a 9hk a 9hl",
   "16i 3r 1u 3l a 1d a 1e a 1f a 1g a 1h a 1i a 1j a 1k a 1l b 2 1d 1c b 2 1d 1d b 2 1d 1e b 2 1d",
   "1f b 2 1d 1g b 2 1d 1h b 2 1d 1i b 2 1d 1j b 2 1d 1k b 2 1d 1l b 2 1e 1c b 3 14 1d 15 b 3 14",
   "1e 15 b 3 14 1f 15 b 3 14 1g 15 b 3 14 1h 15 b 3 14 1i 15 b 3 14 1j 15 b 3 14 1k 15 b 3 14 1l",
   "15 b 4 14 1d 1c 15 b 4 14 1d 1d 15 b 4 14 1d 1e 15 b 4 14 1d 1f 15 b 4 14 1d 1g 15 b 4 14 1d",
   "1h 15 b 4 14 1d 1i 15 b 4 14 1d 1j 15 b 4 14 1d 1k 15 b 4 14 1d 1l 15 b 4 14 1e 1c 15 3f b 3",
   "14 2p 15 b 3 14 2q 15 b 3 14 2r 15 b 3 14 2s 15 b 3 14 2t 15 b 3 14 2u 15 b 3 14 2v 15 b 3 14",
   "2w 15 b 3 14 2x 15 b 3 14 2y 15 b 3 14 2z 15 b 3 14 30 15 b 3 14 31 15 b 3 14 32 15 b 3 14 33",
   "15 b 3 14 34 15 b 3 14 35 15 b 3 14 36 15 b 3 14 37 15 b 3 14 38 15 b 3 14 39 15 b 3 14 3a 15",
   "b 3 14 3b 15 b 3 14 3c 15 b 3 14 3d 15 b 3 14 3e 15 a 2p a 2q a 2r a 2s a 2t a 2u a 2v a 2w a",
   "2x a 2y a 2z a 30 a 31 a 32 a 33 a 34 a 35 a 36 a 37 a 38 a 39 a 3a a 3b a 3c a 3d a 3e a 2p a",
   "2q a 2r a 2s a 2t a 2u a 2v a 2w a 2x a 2y a 2z a 30 a 31 a 32 a 33 a 34 a 35 a 36 a 37 a 38 a",
   "39 a 3a a 3b a 3c a 3d a 3e a 1c 62u b 4 6qz 6qz 6qz 6qz h6 b 3 1m 1m 1p b 2 1p 1p b 3 1p 1p",
   "1p gu b 2 8gt mw p6 f n0 a 8q8 a 8q9 a 8qa a 8qb a 8qc a 8qd a 8qe a 8qf a 8qg a 8qh a 8qi a",
   "8qj a 8qk a 8ql a 8qm a 8qn a 8qo a 8qp a 8qq a 8qr a 8qs a 8qt a 8qu a 8qv a 8qw a 8qx a 8qy",
   "a 8qz a 8r0 a 8r1 a 8r2 a 8r3 a 8r4 a 8r5 a 8r6 a 8r7 a 8r8 a 8r9 a 8ra a 8rb a 8rc a 8rd a",
   "8re a 8rf a 8rg a 8rh a 8ri a 8rj 80 a 8rl 6 a h7 a 5tp a hp c a 8rs 6 a 8ru 6 a 8rw 6 a gh a",
   "hd a gg a gi 6 a 8s3 c a 8s6 10 a 2y a 3a a fz a g0 a 8sh 6 a 8sj 6 a 8sl 6 a 8sn 6 a 8sp 6 a",
   "8sr 6 a 8st 6 a 8sv 6 a 8sx 6 a 8sz 6 a 8t1 6 a 8t3 6 a 8t5 6 a 8t7 6 a 8t9 6 a 8tb 6 a 8td 6",
   "a 8tf 6 a 8th 6 a 8tj 6 a 8tl 6 a 8tn 6 a 8tp 6 a 8tr 6 a 8tt 6 a 8tv 6 a 8tx 6 a 8tz 6 a 8u1",
   "6 a 8u3 6 a 8u5 6 a 8u7 6 a 8u9 6 a 8ub 6 a 8ud 6 a 8uf 6 a 8uh 6 a 8uj 6 a 8ul 6 a 8un 6 a",
   "8up 6 a 8ur 6 a 8ut 6 a 8uv 6 a 8ux 6 a 8uz 6 a 8v1 6 a 8v3 6 a 8v5 6 a 8v7 1c a 8vg 6 a 8vi o",
   "a 8vn 6 x 7i 9 6 x 6 f 9c 19 a 8yp 6 2f 40 1l 16 9 16 9 16 9 16 9 16 9 16 9 16 9 16 9 l0 5r 4c",
   "9 o a lal du a vj3 23 a feo a ffs a fg6 a fgf a fh5 a fid a fik a fj4 a fju a g1r a g2t a g2z",
   "a g3m a g46 a g4r a g68 a g6t a g74 a gbf a ge1 a get a gey a gfs a gg1 a ggs a gh5 a ghu a",
   "gja a gjs a gkj a h5j a h7j a hkb a hky a hl6 a hlh a hlz a ho3 a i1c a i2o a i60 a i6n a i76",
   "a i7s a i9a a i9d a ijf a ijp a ik1 a ike a inm a inu a inz a ir8 a iri a irv a is3 a its a",
   "iu9 a iur a iwz a jd4 a jee a jez a jzj a jzo a k1z a k2f a k2s a k3d a k4g a k4l a kc0 a kco",
   "a kdk a l5s a l7m a l89 a l9v a laj a las a laz a lcf a lck a ldg a m7f a mju a mk6 a mkb a",
   "mkf a mkn a ml5 a ml7 a mng a mtg a mtl a n30 a n3a a n4o a n4v a n54 a n5c a n7v a n82 a nee",
   "a nel a nfy a ngf a nhq a nob a noi a noz a ny2 a o1k a o1q a o6s a o97 a oah a okz a ooo a",
   "p4m a p5d a p6y a p8d a pa9 a pak a paq a pbn a pdr a pe1 a pnn a pnu a po3 a poc a pos a pp7",
   "a ppb a pri a prm a prs a qj1 a qjv a qww a qx8 a qxv a r5q a r63 a r82 a r9c a rp3 a rpi a",
   "rpx a rqw a rrx a rxg a rxs a rzn a s6j a s7e a sd7 a sds a sdx a sk1 a sp5 a ssm a sss a ssx",
   "a tiv a tj4 a tng a trq a trt a tt4 a tw1 a twe a twi a twp a tzf a u0d a u0j a u0x a u5k a",
   "u6z a u73 a uc6 a uc9 a ucs a ujs a ul4 a ulb a un9 a unj a unm a unw a uoq a uzp a vat a vb3",
   "a vc5 a vcr a vcz a vd9 a vdd a veh a vel a vf2 a vf7 a vfk a vgb a vgq a vgy a vil a vj0 a",
   "vj4 73 a w 6 a 1a 8i a 9hu 6 a gg1 a gg4 a gg5 u 9 ec f c b 2 w 9ll b 2 w 9lm c b 2 9l4 9l6 fu",
   "b 2 9mb 9mw x 76 9 a 3cw a 3cx a 3hm a 3cy a 3ho a 3hp a 3cz a 3d0 a 3d1 a 3hs a 3ht a 3hu a",
   "3hv a 3hw a 3hx a 3dm a 3d2 a 3d3 a 3d4 a 3dt a 3d5 a 3d6 a 3d7 a 3d8 a 3d9 a 3da a 3db a 3dc",
   "a 3dd a 3de a 3fl a 3fm a 3fn a 3fo a 3fp a 3fq a 3fr a 3fs a 3ft a 3fu a 3fv a 3fw a 3fx a",
   "3fy a 3fz a 3g0 a 3g1 a 3g2 a 3g3 a 3g4 a 3g5 8 a 3dg a 3dh a 3if a 3ig a 3ik a 3im a 3ir a",
   "3iv a 3ix a 3do a 3j1 a 3j3 a 3dp a 3dq a 3ds a 3du a 3dv a 3dz a 3e1 a 3e3 a 3e4 a 3e5 a 3e6",
   "a 3e7 a 3ea a 3ee a 3eo a 3ev a 3f0 a 3jl a 3jm a 3fb a 3fc a 3fd a 3gk a 3gl a 3go a 3gx a",
   "3gy a 3h0 a 3ha a 3hd 9 c a feo a fik a fex a h5n a fey a ffx a fez a n5e a fh5 a ffd a fep a",
   "hm1 a h80 a fju bo 1r 2o b 3 14 3cw 15 b 3 14 3cy 15 b 3 14 3cz 15 b 3 14 3d1 15 b 3 14 3d2 15",
   "b 3 14 3d3 15 b 3 14 3d5 15 b 3 14 3d7 15 b 3 14 3d8 15 b 3 14 3da 15 b 3 14 3db 15 b 3 14 3dc",
   "15 b 3 14 3dd 15 b 3 14 3de 15 b 3 14 xz4 15 b 3 14 yvs 15 b 3 14 zc4 15 b 3 14 108s 15 b 3 14",
   "10p4 15 b 3 14 115g 15 b 3 14 1224 15 b 3 14 12ys 15 b 3 14 13f4 15 b 3 14 14bs 15 b 3 14 14s4",
   "15 b 3 14 158g 15 b 3 14 15os 15 b 3 14 1654 15 b 3 14 13p8 15 b 4 14 1350 13ic 15 b 4 14 1350",
   "16f8 15 9 b 3 14 feo 15 b 3 14 fik 15 b 3 14 fex 15 b 3 14 h5n 15 b 3 14 fis 15 b 3 14 g31 15",
   "b 3 14 fer 15 b 3 14 g2z 15 b 3 14 fh9 15 b 3 14 gg1 15 b 3 14 kco 15 b 3 14 m7f 15 b 3 14 ldg",
   "15 b 3 14 kdk 15 b 3 14 ssx 15 b 3 14 h7j 15 b 3 14 k4l 15 b 3 14 kkq 15 b 3 14 kcp 15 b 3 14",
   "ny6 15 b 3 14 glp 15 b 3 14 mm1 15 b 3 14 rs1 15 b 3 14 nz1 15 b 3 14 gc4 15 b 3 14 fkz 15 b 3",
   "14 gos 15 b 3 14 i1y 15 b 3 14 nhf 15 b 3 14 flt 15 b 3 14 rt3 15 b 3 14 ggk 15 b 3 14 nzh 15",
   "b 3 14 fm9 15 b 3 14 pnu 15 b 3 14 po3 15 a gun a inw a k1z a oen 1c b 3 34 38 2t b 2 1e 1d b",
   "2 1e 1e b 2 1e 1f b 2 1e 1g b 2 1e 1h b 2 1e 1i b 2 1e 1j b 2 1e 1k b 2 1e 1l b 2 1f 1c b 2 1f",
   "1d b 2 1f 1e b 2 1f 1f b 2 1f 1g b 2 1f 1h a 3cw a 3cy a 3cz a 3d1 a 3d2 a 3d3 a 3d5 a 3d7 a",
   "3d8 a 3da a 3db a 3dc a 3dd a 3de a xz4 a yvs a zc4 a 108s a 10p4 a 115g a 1224 a 12ys a 13f4",
   "a 14bs a 14s4 a 158g a 15os a 1654 b 2 14c8 y5c b 2 13p8 13dk a 138w 6 a feo a fik a fex a h5n",
   "a fis a g31 a fer a g2z a fh9 a gg1 a kco a m7f a ldg a kdk a ssx a h7j a k4l a kkq a kcp a",
   "ny6 a glp a mm1 a rs1 a nz1 a gc4 a o2g a n5j a ho3 a six a g16 a ghc a lig a u11 a fm9 a g49",
   "a l7n a fey a ffx a fez a ijq a gkz a gfv a i3b a i1y a nhf a flt a rt3 a ggk a hlo b 2 1f 1i",
   "b 2 1f 1j b 2 1f 1k b 2 1f 1l b 2 1g 1c b 2 1g 1d b 2 1g 1e b 2 1g 1f b 2 1g 1g b 2 1g 1h b 2",
   "1g 1i b 2 1g 1j b 2 1g 1k b 2 1g 1l b 2 1h 1c b 2 1d kco b 2 1e kco b 2 1f kco b 2 1g kco b 2",
   "1h kco b 2 1i kco b 2 1j kco b 2 1k kco b 2 1l kco b 3 1d 1c kco b 3 1d 1d kco b 3 1d 1e kco b",
   "2 2w 2v b 3 2t 36 2v b 2 2t 3a b 3 30 38 2s a 9lu a 9lw a 9ly a 9m0 a 9m2 a 9m3 a 9m5 a 9m7 a",
   "9m9 a 9mb a 9md a 9mf a 9mh a 9mj a 9ml a 9mn a 9mp a 9ms a 9mu a 9mw a 9my a 9mz a 9n0 a 9n1",
   "a 9n2 a 9n3 a 9n6 a 9n9 a 9nc a 9nf a 9ni a 9nj a 9nk a 9nl a 9nm a 9no a 9nq a 9ns a 9nt a",
   "9nu a 9nv a 9nw a 9nx a 9nz a 9o0 a 9o1 a 9o2 b 2 fl0 gp8 b 4 9lu 9n5 9oc 9mw b 4 9lu 9nv 9n9",
   "9lt b 4 9lu 9o3 9ne 9lu b 3 9lu 9oc 9nv b 4 9lw 9mz 9o3 9m8 b 3 9lw 9o3 9mp b 3 9ly 9m1 9o3 b",
   "5 9m0 9mh 9m7 9oc 9mx b 4 9m0 9oc 9m3 9oc b 3 9m2 9o3 9mh b 3 9m2 9oc 9nk b 3 9m3 9lw 9nu b 4",
   "9m3 9nt 9mr 9mw b 4 9m3 9nx 9nu 9oc b 3 9m4 9nx 9o3 b 3 9m4 9o3 9ni b 2 9m6 9m4 b 3 9m6 9mz",
   "9oc b 4 9m5 9np 9nu 9oc b 4 9m6 9nv 9mo 9oc b 2 9m5 9nx b 5 9m5 9nx 9m8 9nt 9nk b 6 9m5 9nx",
   "9nl 9oc 9mw 9nv b 5 9m5 9nx 9nz 9mr 9mw b 3 9m8 9nt 9nk b 5 9m8 9nt 9nk 9mw 9o3 b 5 9m7 9nv",
   "9mk 9lw 9nx b 4 9m7 9nx 9oc 9n1 b 3 9m9 9oc 9mh b 3 9mb 9nv 9my b 3 9mb 9oc 9nh b 4 9md 9lw",
   "9m7 9nv b 5 9md 9o3 9mp 9oc 9nk b 4 9mf 9nu 9o3 9m8 b 3 9mj 9o3 9mp b 3 9mj 9o3 9mw b 3 9mo",
   "9oc 9mh b 2 9mv 9mf b 2 9mx 9nv b 2 9mw 9o3 b 2 9my 9n2 b 3 9n2 9mr 9mw b 3 9n3 9lw 9ms b 5",
   "9n5 9oc 9mj 9o3 9mw b 3 9n5 9oc 9ms b 4 9n4 9oc 9nw 9nv b 5 9n8 9lu 9mh 9mw 9nv b 3 9n8 9m7",
   "9nv b 2 9n8 9mb b 2 9n7 9nv b 5 9n9 9lt 9nt 9mr 9mx b 4 9n9 9lv 9oc 9mw b 5 9na 9mr 9mf 9lz",
   "9nv b 3 9n9 9nt 9o3 b 5 9nc 9m7 9mn 9oc 9nv b 2 9ne 9ml b 3 9ne 9mz 9n6 b 3 9nc 9nv 9ms b 3",
   "9ne 9o3 9mh b 3 9ne 9oc 9mg b 3 9nd 9oc 9mn b 4 9nh 9lw 9o3 9mw b 3 9ng 9nv 9mw b 2 9nf 9o3 b",
   "3 9nh 9o3 9mx b 3 9nf 9oc 9nv b 3 9nf 9oc 9o3 b 4 9ni 9lw 9m7 9nx b 3 9ni 9lw 9nv b 3 9ni 9mr",
   "9n3 b 3 9ni 9nv 9m7 b 5 9ni 9o3 9mf 9nr 9o3 b 4 9nj 9m7 9nx 9o3 b 2 9nj 9nu b 5 9nj 9nu 9n4",
   "9oc 9nv b 2 9nl 9m4 b 4 9nl 9m4 9mw 9o3 b 4 9nl 9oc 9mw 9nv b 3 9no 9oc 9mx b 3 9no 9oc 9nv b",
   "3 9nq 9lu 9o3 b 4 9nu 9mr 9mw 9nv b 2 9nu 9nt b 3 9nv 9n8 9oc b 4 9nv 9oc 9na 9nv b 2 9nw 9nk",
   "b 5 9nw 9o3 9mw 9ma 9o3 b 3 9nz 9mr 9mw b 2 1c m9l b 2 1d m9l b 2 1e m9l b 2 1f m9l b 2 1g m9l",
   "b 2 1h m9l b 2 1i m9l b 2 1j m9l b 2 1k m9l b 2 1l m9l b 3 1d 1c m9l b 3 1d 1d m9l b 3 1d 1e",
   "m9l b 3 1d 1f m9l b 3 1d 1g m9l b 3 1d 1h m9l b 3 1d 1i m9l b 3 1d 1j m9l b 3 1d 1k m9l b 3 1d",
   "1l m9l b 3 1e 1c m9l b 3 1e 1d m9l b 3 1e 1e m9l b 3 1e 1f m9l b 3 1e 1g m9l b 3 2w 34 2p b 2",
   "2s 2p b 2 2p 39 b 3 2q 2p 36 b 2 33 3a b 2 34 2r b 2 2s 31 b 3 2s 31 1e b 3 2s 31 1f b 2 2x 39",
   "b 2 inn jdc b 2 k6l gp8 b 2 hlz l7n b 2 k5q lh7 b 4 kkq irz fmi ny6 b 2 34 2p b 2 32 2p b 2 qk",
   "2p b 2 31 2p b 2 2z 2p b 2 2z 2q b 2 31 2q b 2 2v 2q b 3 2r 2p 30 b 4 2z 2r 2p 30 b 2 34 2u b",
   "2 32 2u b 2 qk 2u b 2 qk 2v b 2 31 2v b 2 2z 2v b 2 2w 3e b 3 2z 2w 3e b 3 31 2w 3e b 3 2v 2w",
   "3e b 3 38 2w 3e b 2 qk 30 b 2 31 30 b 2 2s 30 b 2 2z 30 b 2 2u 31 b 2 32 31 b 2 qk 31 b 2 31",
   "31 b 2 2r 31 b 2 2z 31 b 3 31 31 1e b 3 2r 31 1e b 2 31 1e b 3 2z 31 1e b 3 31 31 1f b 3 2r 31",
   "1f b 2 31 1f b 3 2z 31 1f b 3 31 6qd 37 b 4 31 6qd 37 1e b 2 34 2p b 3 2z 34 2p b 3 31 34 2p b",
   "3 2v 34 2p b 3 36 2p 2s b 5 36 2p 2s 6qd 37 b 6 36 2p 2s 6qd 37 1e b 2 34 37 b 2 32 37 b 2 qk",
   "37 b 2 31 37 b 2 34 3a b 2 32 3a b 2 qk 3a b 2 31 3a b 2 2z 3a b 2 31 3a b 2 34 3b b 2 32 3b b",
   "2 qk 3b b 2 31 3b b 2 2z 3b b 2 31 3b b 2 2z qx b 2 31 qx 9 b 2 2q 35 b 2 2r 2r b 2 2r 2s b 4",
   "2r 6qd 2z 2v 9 b 2 2s 2q b 2 2v 3d b 2 2w 2p b 2 2w 34 b 2 2x 32 b 2 2z 2z b 2 2z 31 b 2 2z 38",
   "b 2 30 31 b 2 30 32 b 3 30 33 2v b 2 30 3c b 2 31 2q b 3 31 2x 30 b 3 31 33 30 b 2 34 2w 9 b 3",
   "34 34 31 b 2 34 36 b 2 37 36 b 2 37 3a b 2 3b 2q b 3 3a 6qd 31 b 3 2p 6qd 31 b 2 1d k4l b 2 1e",
   "k4l b 2 1f k4l b 2 1g k4l b 2 1h k4l b 2 1i k4l b 2 1j k4l b 2 1k k4l b 2 1l k4l b 3 1d 1c k4l",
   "b 3 1d 1d k4l b 3 1d 1e k4l b 3 1d 1f k4l b 3 1d 1g k4l b 3 1d 1h k4l b 3 1d 1i k4l b 3 1d 1j",
   "k4l b 3 1d 1k k4l b 3 1d 1l k4l b 3 1e 1c k4l b 3 1e 1d k4l b 3 1e 1e k4l b 3 1e 1f k4l b 3 1e",
   "1g k4l b 3 1e 1h k4l b 3 1e 1i k4l b 3 1e 1j k4l b 3 1e 1k k4l b 3 1e 1l k4l b 3 1f 1c k4l b 3",
   "1f 1d k4l b 3 2v 2p 30 3pe6 l 96 1l 1m0 3f a wu9 6 a wub 6 a wud 6 a wuf 6 a wuh 6 a wuj 6 a",
   "wul 6 a wun 6 a wup 6 a wur 6 a wut 6 a wuv 6 a wux 6 a wuz 6 a wv1 6 a wv3 6 a wv5 6 a wv7 6",
   "a wv9 6 a wvb 6 a wvd 6 a wvf 6 a wvh 36 a ww1 6 a ww3 6 a ww5 6 a ww7 6 a ww9 6 a wwb 6 a wwd",
   "6 a wwf 6 a wwh 6 a wwj 6 a wwl 6 a wwn 6 a wwp 6 a wwr 6 a ui a uk f0 1f 5o a x0j 6 a x0l 6 a",
   "x0n 6 a x0p 6 a x0r 6 a x0t 6 a x0v i a x0z 6 a x11 6 a x13 6 a x15 6 a x17 6 a x19 6 a x1b 6",
   "a x1d 6 a x1f 6 a x1h 6 a x1j 6 a x1l 6 a x1n 6 a x1p 6 a x1r 6 a x1t 6 a x1v 6 a x1x 6 a x1z",
   "6 a x21 6 a x23 6 a x25 6 a x27 6 a x29 6 a x2b 6 a x2d 6 a x2f 6 a x2h 6 a x2j 6 a x2l 6 a",
   "x2n 6 a x2n 1c a x2y 6 a x30 6 a 5tl a x33 6 a x35 6 a x37 6 a x39 6 a x3b o a x3g 6 a h1 c a",
   "x3l 6 a x3n i a x3r 6 a x3t 6 a x3v 6 a x3x 6 a x3z 6 a x41 6 a x43 6 a x45 6 a x47 6 a x49 6",
   "a h2 a gs a gx a h8 a h6 6 a im a hz a il a xub a x4l 6 a x4n 6 a x4p 6 a x4r 6 a x4t 6 a x4v",
   "6 a x4x 6 a x4z 6 a x3o a hu a 5u6 a x54 6 a x56 6 a h0 a x59 6 a x5b 6 a x5d 6 a x5f 6 a x5h",
   "6 a x5j 6 a x5l 6 a x5n 6 a bf 3f a 37 a 2r a 2u a 35 a x6e c a 87 a 9f 8i l 1o 13 9c 1f bo 1f",
   "20 13 jc 1x 50 l d0 9 1u r 5i 9 96 1l 2c f 1o f h6 43 4o 1r 10 f 10 f 10 1l 16 9 16 9 7c a x0n",
   "a xtj a h7 a xua 1i a i5 c r a 3vk a 3vl a 3vm a 3vn a 3vo a 3vp a 3vq a 3vr a 3vs a 3vt a 3vu",
   "a 3vv a 3vw a 3vx a 3vy a 3vz a 3w0 a 3w1 a 3w2 a 3w3 a 3w4 a 3w5 a 3w6 a 3w7 a 3w8 a 3w9 a",
   "3wa a 3wb a 3wc a 3wd a 3we a 3wf a 3wg a 3wh a 3wi a 3wj a 3wk a 3wl a 3wm a 3wn a 3wo a 3wp",
   "a 3wq a 3wr a 3ws a 3wt a 3wu a 3wv a 3ww a 3wx a 3wy a 3wz a 3x0 a 3x1 a 3x2 a 3x3 a 3x4 a",
   "3x5 a 3x6 a 3x7 a 3x8 a 3x9 a 3xa a 3xb a 3xc a 3xd a 3xe a 3xf a 3xg a 3xh a 3xi a 3xj a 3xk",
   "a 3xl a 3xm a 3xn a 3xo a 3xp a 3xq a 3xr 7o f 1o 13 1fq0 23 3u r 86 134r a rpk a kc4 a s7e a",
   "rt4 a lw1 a fg2 a gkl g vj0 a hn5 a ssx a gw7 a hmw a jcm a ne1 a p6t a qin a qt6 a r20 a sjz",
   "a kxu a ljv a mah a mvy a q4d a sq2 a uep a fia a ghh a l50 a mjf a qi5 a v8e a ifk a m3v a",
   "qfh a r50 a jih a pnc a qvz a iq2 a kd3 a lm2 a mpo a slq a fpi a g53 a gda a jwk a l3n a mj4",
   "a nhj a pa9 a qh2 a qjg a s1b a tv6 a upb a v7e a nt8 a nzz a otc a q15 a t1g a vb3 a rfa a",
   "hjz a iro a okg a pdq a mle a nuy a rsy a ttj a hjs a i8y a kyb a lp6 a lxr a oq7 a oxj a tor",
   "a gcy a pe3 a g64 a g5o a o4c a ou6 a q29 a tpx a rk0 a jin a kxu a rge a fg9 a i5j a iz6 a",
   "mtj a n74 a gev a nwb a fr3 a iw9 a ff1 a lho a k1k a opu a gjn a hge a ni9 a q4p a re2 a la2",
   "a sds a lfs a jjy a put a jog a n6t a fji a g2x a g5l a kn5 a oo7 a prj a rf6 a ssv a gdx a",
   "gn6 a ho3 a ir0 a k3p a m4e a nxm a tkd a ui2 a vbr a vda a gbf a kau a l87 a sbm a ino a j9s",
   "a jcw a jve a lyb a mdl a n0p a o22 a ovo a pdb a s9y a q9a a sgz a t3e a g7r a gbn a gql a",
   "ma0 a r0i a re2 a iq1 a iyd a jnf a l9q a oji a mt1 a fl0 a h6h a i5j a iii a izg a muq a mzt",
   "a p7e a pc6 a svo a tti a tvs a u1k a fpn a o1a a ss4 a trs a j4x a fie a fyy a i5q a i7z a",
   "k2h a kxu a mha a ncy a q9o a sjg a vil a k94 a tny a gax a kfv a kj7 a lkx a luk a mx5 a n6h",
   "a nsb a opc a u3i a g31 a je6 a tq0 a fu3 a ie1 a lpm a sa2 a ivf a j7o a kk7 a mtj a tqe a",
   "g89 a glr a i91 a k5v a kem a ko8 a lid a mx2 a naa a p6h a r0v a r1d a sss a tsy a gfz a lve",
   "a gm5 a mhc a n14 a qgq a tr7 a uvr a vbz a kgn a lor a pns a o97 a obk a olu a mo0 a m8p a",
   "riw a fk0 a px2 a g8q a g7b a ip2 a jir a onq a i2t a ljy a kac a saj a qx8 a tot a r63 a iqb",
   "a g1s a gxs c a hga 6 a k8k c a g66 a mqy a ngq a ny4 a nz2 a nz9 a o0f a tw6 a on2 a p8d 6 a",
   "qhe 6 a rg8 c a shk a sn1 i a u7j a u7w a u94 a v5g a sm6 a trr a fqm a fzb a g25 a gcp a gdg",
   "a ggh a gwt a gzq a h2g a hfk a hig a i90 a i9a a j2s a j8o a j9q a jci a k0f a k4i a k9d a",
   "kn9 a lmf a lqy a lya a mem a mjv a mxu a ntd a ny6 a nyh a nyg a nyo a nyu a nz1 a o0d a o0e",
   "a o5c a o75 a og0 a ovo a ow9 a oxt a p6a a pad a pnx g prt a q53 a r2o a r6e a rgh a ri1 a",
   "rtf a ruw a sdy a shk a tsz a u0v a u2j a j1x a 36cu a pp4 f a ffq a g51 a g2w a fpc a g1x a",
   "g3k a gcn a ge2 a gwt a gut a gwp a gyq a hga a hir a hms a hn8 a huq a i08 a iqa a iqh a iuh",
   "a iwd a j4o a j7y a j60 a j9q a j8g a jci a jec a jpg a jrw a jte a k0m a k8k a kd3 a kd7 a",
   "keu a l89 a la2 a lkx a lwb a lvv a lya a m5a a mem a nmv a mk5 a mnj a mqy a n01 a n46 a n5n",
   "a nbx a nbz a ngq a nh7 a nhw a nka a nk0 a nv0 a o8h a og0 a ol7 a orf a ovo a p4u a pad a",
   "pxu a q27 a qrd a r41 a r5y a r6e a ren a rg8 a rez a rgh a rge a rfx a ri1 a rka a ruw a sag",
   "a sj6 a srd a sxi a tq4 a tsz a tw6 a tzv a u0v a u17 a u2j a umq a vj0 a 313e a 3138 a 33dh a",
   "brx a cns a cop a 39e1 a 3bgw a 3i6r a vgj a vim 6f b 2 2u 2u b 2 2u 2x b 2 2u 30 b 3 2u 2u 2x",
   "b 3 2u 2u 30 h 2 37 38 23 b 2 12s 12u b 2 12s 12d b 2 12s 12j b 2 132 12u b 2 12s 12l x b 2",
   "15l 14k 6 b 2 16a 14n a 15u a 15c a 15f a 15g a 15n a 15o a 15p a 160 a 162 a 17 b 2 161 14x b",
   "2 161 14y b 3 161 14s 14x b 3 161 14s 14y b 2 15c 14n b 2 15c 14o b 2 15c 14s b 2 15d 14s b 2",
   "15e 14s b 2 15f 14s b 2 15g 14s b 2 15h 14s b 2 15i 14s 9 b 2 15k 14s b 2 15l 14s b 2 15m 14s",
   "b 2 15n 14s b 2 15o 14s 9 b 2 15q 14s 9 b 2 15s 14s b 2 15t 14s 9 b 2 15v 14s b 2 15w 14s 9 b",
   "2 15y 14s b 2 15z 14s b 2 160 14s b 2 161 14s b 2 162 14s b 2 15h 14p b 2 15d 14v b 2 15n 14v",
   "b 2 15w 14v b 2 15c 15o g 19t s 1a3 s 1a6 s 1a8 s 1a2 s 1a7 s 1a1 s 1b8 s 1ba s 1ac s 1ab s",
   "1ae s 1af g 1al g 1ak g 1am g 1ag g 1aw g 1ap s 1bd s 1bj s 1bn s 1bl g 1bu s 1bv g 1c0 s 1c1",
   "s 1by g 1ci g 1cj 5i s 1bh g 1c7 g 1c6 g 1c8 b 2 1c7 19w g 1cb g 1c5 g 1c9 s 1cg g 18p h 2 17q",
   "17r h 2 17q 1cl h 2 17q 18o h 2 17q 1c7 h 2 17q 1c6 h 2 17q 1c8 n 2 17q 1cg n 2 17q 18p s 1cc",
   "b 2 17q 17w b 2 17q 17x b 2 17q 18l b 2 17q 18p b 2 17q 18q b 2 17s 17w b 2 17s 17x b 2 17s",
   "17y b 2 17s 18l b 2 17s 18p b 2 17s 18q b 2 17u 17w b 2 17u 17x b 2 17u 17y b 2 17u 18l b 2",
   "17u 18p b 2 17u 18q b 2 17v 17w b 2 17v 18l b 2 17v 18p b 2 17v 18q b 2 17w 17x b 2 17w 18l b",
   "2 17x 17w b 2 17x 18l b 2 17y 17w b 2 17y 17x b 2 17y 18l b 2 183 17w b 2 183 17x b 2 183 17y",
   "b 2 183 18l b 2 185 17x b 2 185 18l b 2 186 17w b 2 186 17x b 2 186 17y b 2 186 18l b 2 187",
   "17x b 2 187 18l b 2 188 18l b 2 189 17w b 2 189 18l b 2 18a 17w b 2 18a 18l b 2 18h 17w b 2",
   "18h 17x b 2 18h 17y b 2 18h 18l b 2 18h 18p b 2 18h 18q b 2 18i 17x b 2 18i 18l b 2 18i 18p b",
   "2 18i 18q b 2 18j 17r b 2 18j 17w b 2 18j 17x b 2 18j 17y b 2 18j 18k b 2 18j 18l b 2 18j 18p",
   "b 2 18j 18q b 2 18k 17w b 2 18k 17x b 2 18k 17y b 2 18k 18l b 2 18k 18p b 2 18k 18q b 2 18l",
   "17w b 2 18l 17x b 2 18l 17y b 2 18l 18l b 2 18l 18p b 2 18l 18q b 2 18m 17w b 2 18m 17x b 2",
   "18m 17y b 2 18m 18l b 2 18m 18p b 2 18m 18q b 2 18n 17w b 2 18n 18l b 2 18n 18p b 2 18n 18q b",
   "2 18q 17w b 2 18q 17x b 2 18q 17y b 2 18q 18l b 2 18q 18p b 2 18q 18q b 2 180 19s b 2 181 19s",
   "b 2 18p 19s b 3 w 18s 18x b 3 w 18t 18x b 3 w 18u 18x b 3 w 18v 18x b 3 w 18w 18x b 3 w 18x",
   "19s b 2 17q 181 b 2 17q 182 b 2 17q 18l b 2 17q 18m b 2 17q 18p b 2 17q 18q b 2 17s 181 b 2",
   "17s 182 b 2 17s 18l b 2 17s 18m b 2 17s 18p b 2 17s 18q b 2 17u 181 b 2 17u 182 b 2 17u 18l b",
   "2 17u 18m b 2 17u 18p b 2 17u 18q b 2 17v 181 b 2 17v 182 b 2 17v 18l b 2 17v 18m b 2 17v 18p",
   "b 2 17v 18q b 2 18h 18p b 2 18h 18q b 2 18i 18p b 2 18i 18q b 2 18j 17r b 2 18j 18k b 2 18j",
   "18l b 2 18j 18p b 2 18j 18q b 2 18k 18l b 2 18k 18p b 2 18k 18q b 2 18l 17r b 2 18l 18l b 2",
   "18m 181 b 2 18m 182 b 2 18m 18l b 2 18m 18m b 2 18m 18p b 2 18m 18q b 2 18p 19s b 2 18q 181 b",
   "2 18q 182 b 2 18q 18l b 2 18q 18m b 2 18q 18p b 2 18q 18q b 2 17q 17w b 2 17q 17x b 2 17q 17y",
   "b 2 17q 18l b 2 17q 18n b 2 17s 17w b 2 17s 17x b 2 17s 17y b 2 17s 18l b 2 17s 18n b 2 17u",
   "17w b 2 17u 17x b 2 17u 17y b 2 17u 18l b 2 17u 18n b 2 17v 18l b 2 17w 17x b 2 17w 18l b 2",
   "17x 17w b 2 17x 18l b 2 17y 17w b 2 17y 18l b 2 183 17w b 2 183 17x b 2 183 17y b 2 183 18l b",
   "2 185 17x b 2 185 17y b 2 185 18l b 2 186 17w b 2 186 17x b 2 186 17y b 2 186 18l b 2 187 17x",
   "b 2 188 18l b 2 189 17w b 2 189 18l b 2 18a 17w b 2 18a 18l b 2 18h 17w b 2 18h 17x b 2 18h",
   "17y b 2 18h 18l b 2 18i 17x b 2 18i 18l b 2 18j 17w b 2 18j 17x b 2 18j 17y b 2 18j 18k b 2",
   "18j 18l b 2 18k 17w b 2 18k 17x b 2 18k 17y b 2 18k 18l b 2 18k 18n b 2 18l 17w b 2 18l 17x b",
   "2 18l 17y b 2 18l 18l b 2 18m 17w b 2 18m 17x b 2 18m 17y b 2 18m 18l b 2 18m 18n b 2 18n 17w",
   "b 2 18n 18l b 2 18n 19s b 2 18q 17w b 2 18q 17x b 2 18q 17y b 2 18q 18l b 2 18q 18n b 2 17q",
   "18l b 2 17q 18n b 2 17s 18l b 2 17s 18n b 2 17u 18l b 2 17u 18n b 2 17v 18l b 2 17v 18n b 2",
   "183 18l b 2 183 18n b 2 184 18l b 2 184 18n b 2 18j 18k b 2 18j 18l b 2 18k 18l b 2 18m 18l b",
   "2 18m 18n b 2 18q 18l b 2 18q 18n b 3 18g 18u 18x b 3 18g 18v 18x b 3 18g 18w 18x b 2 187 18p",
   "b 2 187 18q b 2 189 18p b 2 189 18q b 2 18a 18p b 2 18a 18q b 2 183 18p b 2 183 18q b 2 184",
   "18p b 2 184 18q b 2 17x 18p b 2 17x 18q b 2 17w 18p b 2 17w 18q b 2 17y 18p b 2 17y 18q b 2",
   "185 18p b 2 185 18q b 2 186 18p b 2 186 18q b 2 184 17w b 2 184 17x b 2 184 17y b 2 184 18l b",
   "2 184 181 b 2 183 181 b 2 185 181 b 2 186 181 b 2 187 18p b 2 187 18q b 2 189 18p b 2 189 18q",
   "b 2 18a 18p b 2 18a 18q b 2 183 18p b 2 183 18q b 2 184 18p b 2 184 18q b 2 17x 18p b 2 17x",
   "18q b 2 17w 18p b 2 17w 18q b 2 17y 18p b 2 17y 18q b 2 185 18p b 2 185 18q b 2 186 18p b 2",
   "186 18q b 2 184 17w b 2 184 17x b 2 184 17y b 2 184 18l b 2 184 181 b 2 183 181 b 2 185 181 b",
   "2 186 181 b 2 184 17w b 2 184 17x b 2 184 17y b 2 184 18l b 2 183 18n b 2 184 18n b 2 187 18l",
   "b 2 183 17w b 2 183 17x b 2 183 17y b 2 184 17w b 2 184 17x b 2 184 17y b 2 187 18l b 2 188",
   "18l h 2 17r 18r 30 b 3 17u 17w 18l h 3 17u 17x 17w b 3 17u 17x 18l b 3 17u 17y 18l b 3 17u 18l",
   "17w b 3 17u 18l 17x b 3 17u 18l 17y h 3 17w 18l 17x b 3 17x 18l 18q b 3 17x 18l 18p b 3 183",
   "17x 17w b 3 183 17w 17x b 3 183 17w 18p h 3 183 18l 17x b 3 183 18l 17w h 3 183 18l 18l h 3",
   "185 17x 17x b 3 185 18l 18l h 3 184 17x 18l b 3 184 17w 18q h 3 184 18l 17y h 3 184 18l 18l b",
   "3 186 17x 18p h 3 186 17y 18l h 3 187 18l 17x b 3 187 18l 18l b 3 187 18l 18q b 3 189 17w 18l",
   "h 3 189 18l 18l b 3 189 18l 18p b 3 18a 18l 18l b 3 18a 18l 18q b 3 18a 18l 18p h 3 18h 17y",
   "18l b 3 18i 18l 17x b 3 18i 18l 18l b 3 18k 17x 18l b 3 18k 17x 18q b 3 18k 17x 18p h 3 18k",
   "17w 17w h 3 18k 17y 18l h 3 18k 18l 17x b 3 18l 17x 17w b 3 18l 17x 18l b 3 18l 17x 18q b 3",
   "18l 17w 17x b 3 18l 17w 18l b 3 18l 17y 17w b 3 18l 17y 18l c b 3 18l 17w 17y b 3 18n 18l 17w",
   "b 3 18n 18l 18l b 3 18m 17x 18l b 3 18m 17x 18p h 3 18m 17w 18l b 3 18m 17w 18p b 3 18m 18l",
   "18q b 3 18m 18l 18p h 3 18q 18l 18l b 3 17s 17y 18q b 3 17u 17w 18q b 3 17u 17w 18p b 3 17u",
   "17y 18q b 3 17u 17y 18p b 3 17u 18l 18q b 3 17u 18l 18p b 3 17w 18l 18q b 3 17w 17x 18p b 3",
   "17w 18l 18p b 3 183 17y 18p b 3 185 17x 18q b 3 184 17x 18q b 3 186 17x 18q b 3 18k 17w 18q b",
   "3 18k 18l 18q b 3 18q 17x 18q b 3 18q 17w 18q b 3 18q 18l 18q b 3 18l 18l 18q b 3 18i 18l 18q",
   "b 3 18m 17x 18q b 3 18i 18l 17x b 3 18k 17x 18l b 3 189 18l 18q b 3 18j 18l 18q b 3 18m 17w",
   "17x b 3 18l 17y 18q b 3 18k 17w 18l b 3 18j 18l 18l b 3 18k 17w 18l b 3 18m 17w 17x b 3 17w",
   "17x 18q b 3 17x 17w 18q b 3 18l 17w 18q b 3 18h 18l 18q b 3 17s 17x 18q b 3 18j 18l 18l b 3",
   "189 17w 18l b 3 185 18l 18l b 3 183 17y 18q b 3 18m 17w 18q 1c 5f b 3 185 18k 1ci b 3 18i 18k",
   "1ci b 4 17r 18k 18k 18n b 4 17r 18j 17s 181 b 4 18l 17x 18l 17z b 4 185 18k 189 18l b 4 181",
   "183 18o 18k b 4 189 18k 18q 18n b 4 18o 183 18k 18l b 3 185 18k 18p b i 185 18k 18p w 17r 18k",
   "18k 18n w 189 18k 18q 18n w 18o 183 18k 18l b 8 17w 18k w 17w 18k 17r 18k 18n b 4 181 1cc 17r",
   "18k i 2q a 18 a 9hd 9 a 1m a 1n a x a 1r a 9hy a 9hz 19 2o 9 a 6c4 a 6c3 g 2n a 14 a 15 a 3f a",
   "3h a 9hw a 9hx a 9hs a 9ht a 9hm a 9hn a 9hk a 9hl a 9ho a 9hp a 9hq a 9hr c a 2j a 2l t 2 w",
   "lh m 2n a 18 a 9hd f a 1n a 1m a 1r a x a 6c4 a 14 a 15 a 3f a 3h a 9hw a 9hx a z a 12 a 16 a",
   "17 a 19 a 1o a 1q a 1p 9 a 2k a 10 a 11 a 1s r b 2 w 18r b 2 18g 18r b 2 w 18s 6 b 2 w 18t 9 b",
   "2 w 18u b 2 18g 18u b 2 w 18v b 2 18g 18v b 2 w 18w b 2 18g 18w b 2 w 18x b 2 18g 18x b 2 w",
   "18y b 2 18g 18y a 17l g 17m g 17n g 17o g 17p s 17q g 17r s 17s g 17t s 17u s 17v s 17w s 17x",
   "s 17y g 17z g 180 g 181 g 182 s 183 s 184 s 185 s 186 s 187 s 188 s 189 s 18a s 18h s 18i s",
   "18j s 18k s 18l s 18m s 18n g 18o g 18p s 18q h 2 18k 17m h 2 18k 17n h 2 18k 17p h 2 18k 17r",
   "f 8 9 a x a y a z a 10 a 11 a 12 a 13 a 14 a 15 a 16 a 17 a 18 a 19 a 1a a 1b a 1c a 1d a 1e a",
   "1f a 1g a 1h a 1i a 1j a 1k a 1l a 1m a 1n a 1o a 1p a 1q a 1r a 1s a 2p a 2q a 2r a 2s a 2t a",
   "2u a 2v a 2w a 2x a 2y a 2z a 30 a 31 a 32 a 33 a 34 a 35 a 36 a 37 a 38 a 39 a 3a a 3b a 3c a",
   "3d a 3e a 2j a 2k a 2l a 2m a 2n a 2o a 2p a 2q a 2r a 2s a 2t a 2u a 2v a 2w a 2x a 2y a 2z a",
   "30 a 31 a 32 a 33 a 34 a 35 a 36 a 37 a 38 a 39 a 3a a 3b a 3c a 3d a 3e a 3f a 3g a 3h a 3i a",
   "879 a 87a a 1a a 9ho a 9hp a 9hd a 9ob a 9o2 a 9lt a 9lv a 9lx a 9lz a 9m1 a 9nn a 9np a 9nr a",
   "9mr a 9oc a 9lu a 9lw a 9ly a 9m0 a 9m2 a 9m3 a 9m5 a 9m7 a 9m9 a 9mb a 9md a 9mf a 9mh a 9mj",
   "a 9ml a 9mn a 9mp a 9ms a 9mu a 9mw a 9my a 9mz a 9n0 a 9n1 a 9n2 a 9n3 a 9n6 a 9n9 a 9nc a",
   "9nf a 9ni a 9nj a 9nk a 9nl a 9nm a 9no a 9nq a 9ns a 9nt a 9nu a 9nv a 9nw a 9nx a 9nz a 9o3",
   "a 9ll a 9lm 8 a 3cw a 3cx a 3hm a 3cy a 3ho a 3hp a 3cz a 3d0 a 3d1 a 3hs a 3ht a 3hu a 3hv a",
   "3hw a 3hx a 3dm a 3d2 a 3d3 a 3d4 a 3dt a 3d5 a 3d6 a 3d7 a 3d8 a 3d9 a 3da a 3db a 3dc a 3dd",
   "a 3de l a 3fl a 3fm a 3fn a 3fo a 3fp a 3fq f a 3fr a 3fs a 3ft a 3fu a 3fv a 3fw f a 3fx a",
   "3fy a 3fz a 3g0 a 3g1 a 3g2 f a 3g3 a 3g4 a 3g5 l a 4i a 4j a 4s b 2 w lg a 4m a 4l a 6g9 9 a",
   "7b6 a 6mo a 6mp a 6mq a 6mr a 7fk a 7gr 2x 20 9 4c 9 36 9 c 9 2i f 2c 5r ki x i r 7i l eo 9 26",
   "l 6 7x 7o lr 4u l 86 2l 4o r 60 1l 50 x 76 x 50 9 66 r 2c 73 a 1fe0 a 1fe1 a 1fe2 a 1fe3 a",
   "1fe4 a 1fe5 a 1fe6 a 1fe7 a 1fe8 a 1fe9 a 1fea a 1feb a 1fec a 1fed a 1fee a 1fef a 1feg a",
   "1feh a 1fei a 1fej a 1fek a 1fel a 1fem a 1fen a 1feo a 1fep a 1feq a 1fer a 1fes a 1fet a",
   "1feu a 1fev a 1few a 1fex a 1fey a 1fez a 1ff0 a 1ff1 a 1ff2 a 1ff3 jo f 1o 13 a 1fiw a 1fix a",
   "1fiy a 1fiz a 1fj0 a 1fj1 a 1fj2 a 1fj3 a 1fj4 a 1fj5 a 1fj6 a 1fj7 a 1fj8 a 1fj9 a 1fja a",
   "1fjb a 1fjc a 1fjd a 1fje a 1fjf a 1fjg a 1fjh a 1fji a 1fjj a 1fjk a 1fjl a 1fjm a 1fjn a",
   "1fjo a 1fjp a 1fjq a 1fjr a 1fjs a 1fjt a 1fju a 1fjv r 60 r 6o 1f 8o 1x 6 a 1fo7 a 1fo8 a",
   "1fo9 a 1foa a 1fob a 1foc a 1fod a 1foe a 1fof a 1fog a 1foh 9 a 1foj a 1fok a 1fol a 1fom a",
   "1fon a 1foo a 1fop a 1foq a 1for a 1fos a 1fot a 1fou a 1fov a 1fow a 1fox 9 a 1foz a 1fp0 a",
   "1fp1 a 1fp2 a 1fp3 a 1fp4 a 1fp5 9 a 1fp7 a 1fp8 9 1u 9 2i 9 16 9 c l 8o 23 1fu 1l 3o 1r 1c 43",
   "6 a k0 a k1 a 6e a ih a gj 9 a ir a xuu a it a is a gm a gn a 5u9 a go a gu a ix a h0 a gy a",
   "gw a ij a 87 a ik a h3 a hw a iy a iz a h8 a 2mmc a x3i a ha a 2mmd a i6 a 2mme a 6w a hi a hj",
   "a 35 a hm a 2mmg a hp a hq a hs a iw a iu a xuv a iv a i0 a 8s1 9 a i7 a ip a iq a ig a cg a",
   "ch a ci a 2mmi a 2mn2 bl 10 f 6 9 7c 9 c l 6 f 3u 9 c0 1f 1i 83 36 9 c x 5i l 4i x 4i 6f 9c r",
   "3c f 8c 9 c x 1c 9 i 9 4u f i r 1o 19 1i 19 ao 5f 6i r 20 1l 90 l 4u f 4i x 4c 19 o 23 16 df",
   "c6 99 a 1h34 a 1h35 a 1h36 a 1h37 a 1h38 a 1h39 a 1h3a a 1h3b a 1h3c a 1h3d a 1h3e a 1h3f a",
   "1h3g a 1h3h a 1h3i a 1h3j a 1h3k a 1h3l a 1h3m a 1h3n a 1h3o a 1h3p a 1h3q a 1h3r a 1h3s a",
   "1h3t a 1h3u a 1h3v a 1h3w a 1h3x a 1h3y a 1h3z a 1h40 a 1h41 a 1h42 a 1h43 a 1h44 a 1h45 a",
   "1h46 a 1h47 a 1h48 a 1h49 a 1h4a a 1h4b a 1h4c a 1h4d a 1h4e a 1h4f a 1h4g a 1h4h a 1h4i 29 8i",
   "19 7o 1f 1o 13 2o a 1h80 a 1h81 a 1h82 a 1h83 a 1h84 a 1h85 a 1h86 a 1h87 a 1h88 a 1h89 a 1h8a",
   "a 1h8b a 1h8c a 1h8d a 1h8e a 1h8f a 1h8g a 1h8h a 1h8i a 1h8j a 1h8k a 1h8l l 4u 1f c yr 56 9",
   "70 9 i f c 2r 10 1f 1i 5l 7o 1f 70 3r 4c 6f 4o 3f 3u 1l d0 r 60 1l ac 9 u 29 46 19 1o 13 8u 9",
   "30 1f 6i 1l g0 9 3c 1x 30 9 7u af 16 9 6 9 o 9 2i 9 1u 13 9u x 1o 13 o 9 1c f c f 3o 9 16 9 c",
   "9 u 9 1o f c f i f 6 13 6 x 16 f 16 l u 1x 1o 9 6 f 6 9 6c 9 1o 9 6 f 6 9 o 9 1o 9 c 1f c 4x",
   "fc 9 u 53 c0 1f 1o rr 90 f 6c 5r bi 1x 1o 13 26 39 9o 13 1o 13 3c 4r 4i f 2i r 3u ux a0 gr a",
   "1jgg a 1jgh a 1jgi a 1jgj a 1jgk a 1jgl a 1jgm a 1jgn a 1jgo a 1jgp a 1jgq a 1jgr a 1jgs a",
   "1jgt a 1jgu a 1jgv a 1jgw a 1jgx a 1jgy a 1jgz a 1jh0 a 1jh1 a 1jh2 a 1jh3 a 1jh4 a 1jh5 a",
   "1jh6 a 1jh7 a 1jh8 a 1jh9 a 1jha a 1jhb 8i 23 1c f 6 f 1c 9 c 9 50 9 c f 20 1l 1o br 1c f 7o f",
   "1u 4l c0 1f du 29 c6 19 1o ef 1c er 5o 2f 1o 13 1i 9 7i 9 2c 1r 4u l 5c f 3o 9 2c c9 16 9 c 9",
   "7c l 6 9 c 9 1i 1f 1o 13 10 9 c 9 66 9 c 9 10 19 1o 13 7c r 1o 153 46 19 2u 9 6u l 4u e9 6 2l",
   "8c 29 49u h3 ii 9 u 1x wo c7f gi 29 4yo 2r 3o 1r ihu x 2p6 vo9 9o 813 2mu 19 56 9 1o r di 9 1o",
   "13 50 f 10 1r bo 1r 1o 9 16 9 3i x 36 203 9o x3 a 20dc a 20dd a 20de a 20df a 20dg a 20dh a",
   "20di a 20dj a 20dk a 20dl a 20dm a 20dn a 20do a 20dp a 20dq a 20dr a 20ds a 20dt a 20du a",
   "20dv a 20dw a 20dx a 20dy a 20dz a 20e0 a 20e1 a 20e2 a 20e3 a 20e4 a 20e5 a 20e6 a 20e7 9u x",
   "a 20fv a 20fw a 20fx a 20fy a 20fz a 20g0 a 20g1 a 20g2 a 20g3 a 20g4 a 20g5 a 20g6 a 20g7 a",
   "20g8 a 20g9 a 20ga a 20gb a 20gc a 20gd a 20ge a 20gf a 20gg a 20gh a 20gi a 20gj f 46 7f ci r",
   "9i 19 2u ar u 1x 16 1l y6c 6x 5c g9 j6 14a9 o 9 16 9 c 9 1ci 2l 6 4x i f 6 2f o 1f 1u0 aor hu",
   "x 26 l 1i 19 1o f o q i7f zo a 2p a 2q a 2r a 2s a 2t a 2u a 2v a 2w a 2x a 2y a 2z a 30 a 31",
   "a 32 a 33 a 34 a 35 a 36 a 37 a 38 a 39 a 3a a 3b a 3c a 3d a 3e a 1c a 1d a 1e a 1f a 1g a 1h",
   "a 1i a 1j a 1k a 1l i l 20o 13 3u 2l 2u 2l 7o f 3u 1l jc a3 150 1r 6i f 8u b 2 2jx3 2jxh b 2",
   "2jx4 2jxh b 3 2jx4 2jxh 2jxq b 3 2jx4 2jxh 2jxr b 3 2jx4 2jxh 2jxs b 3 2jx4 2jxh 2jxt b 3 2jx4",
   "2jxh 2jxu 2c 1e ao b 2 2jzt 2jxh b 2 2jzu 2jxh b 3 2jzt 2jxh 2jxq b 3 2jzu 2jxh 2jxq b 3 2jzt",
   "2jxh 2jxr b 3 2jzu 2jxh 2jxr 70 3l bo kf 3c 23 3c 23 ei 1l 46 ml a 2p a 2q a 2r a 2s a 2t a 2u",
   "a 2v a 2w a 2x a 2y a 2z a 30 a 31 a 32 a 33 a 34 a 35 a 36 a 37 a 38 a 39 a 3a a 3b a 3c a 3d",
   "a 3e a 2p a 2q a 2r a 2s a 2t a 2u a 2v a 2w a 2x a 2y a 2z a 30 a 31 a 32 a 33 a 34 a 35 a 36",
   "a 37 a 38 a 39 a 3a a 3b a 3c a 3d a 3e a 2p a 2q a 2r a 2s a 2t a 2u a 2v a 2w a 2x a 2y a 2z",
   "a 30 a 31 a 32 a 33 a 34 a 35 a 36 a 37 a 38 a 39 a 3a a 3b a 3c a 3d a 3e a 2p a 2q a 2r a 2s",
   "a 2t a 2u a 2v 9 a 2x a 2y a 2z a 30 a 31 a 32 a 33 a 34 a 35 a 36 a 37 a 38 a 39 a 3a a 3b a",
   "3c a 3d a 3e a 2p a 2q a 2r a 2s a 2t a 2u a 2v a 2w a 2x a 2y a 2z a 30 a 31 a 32 a 33 a 34 a",
   "35 a 36 a 37 a 38 a 39 a 3a a 3b a 3c a 3d a 3e a 2p a 2q a 2r a 2s a 2t a 2u a 2v a 2w a 2x a",
   "2y a 2z a 30 a 31 a 32 a 33 a 34 a 35 a 36 a 37 a 38 a 39 a 3a a 3b a 3c a 3d a 3e a 2p 9 a 2r",
   "a 2s f a 2v f a 2y a 2z f a 32 a 33 a 34 a 35 9 a 37 a 38 a 39 a 3a a 3b a 3c a 3d a 3e a 2p a",
   "2q a 2r a 2s 9 a 2u 9 a 2w a 2x a 2y a 2z a 30 a 31 a 32 9 a 34 a 35 a 36 a 37 a 38 a 39 a 3a",
   "a 3b a 3c a 3d a 3e a 2p a 2q a 2r a 2s a 2t a 2u a 2v a 2w a 2x a 2y a 2z a 30 a 31 a 32 a 33",
   "a 34 a 35 a 36 a 37 a 38 a 39 a 3a a 3b a 3c a 3d a 3e a 2p a 2q a 2r a 2s a 2t a 2u a 2v a 2w",
   "a 2x a 2y a 2z a 30 a 31 a 32 a 33 a 34 a 35 a 36 a 37 a 38 a 39 a 3a a 3b a 3c a 3d a 3e a 2p",
   "a 2q 9 a 2s a 2t a 2u a 2v f a 2y a 2z a 30 a 31 a 32 a 33 a 34 a 35 9 a 37 a 38 a 39 a 3a a",
   "3b a 3c a 3d 9 a 2p a 2q a 2r a 2s a 2t a 2u a 2v a 2w a 2x a 2y a 2z a 30 a 31 a 32 a 33 a 34",
   "a 35 a 36 a 37 a 38 a 39 a 3a a 3b a 3c a 3d a 3e a 2p a 2q 9 a 2s a 2t a 2u a 2v 9 a 2x a 2y",
   "a 2z a 30 a 31 9 a 33 l a 37 a 38 a 39 a 3a a 3b a 3c a 3d 9 a 2p a 2q a 2r a 2s a 2t a 2u a",
   "2v a 2w a 2x a 2y a 2z a 30 a 31 a 32 a 33 a 34 a 35 a 36 a 37 a 38 a 39 a 3a a 3b a 3c a 3d a",
   "3e a 2p a 2q a 2r a 2s a 2t a 2u a 2v a 2w a 2x a 2y a 2z a 30 a 31 a 32 a 33 a 34 a 35 a 36 a",
   "37 a 38 a 39 a 3a a 3b a 3c a 3d a 3e a 2p a 2q a 2r a 2s a 2t a 2u a 2v a 2w a 2x a 2y a 2z a",
   "30 a 31 a 32 a 33 a 34 a 35 a 36 a 37 a 38 a 39 a 3a a 3b a 3c a 3d a 3e a 2p a 2q a 2r a 2s a",
   "2t a 2u a 2v a 2w a 2x a 2y a 2z a 30 a 31 a 32 a 33 a 34 a 35 a 36 a 37 a 38 a 39 a 3a a 3b a",
   "3c a 3d a 3e a 2p a 2q a 2r a 2s a 2t a 2u a 2v a 2w a 2x a 2y a 2z a 30 a 31 a 32 a 33 a 34 a",
   "35 a 36 a 37 a 38 a 39 a 3a a 3b a 3c a 3d a 3e a 2p a 2q a 2r a 2s a 2t a 2u a 2v a 2w a 2x a",
   "2y a 2z a 30 a 31 a 32 a 33 a 34 a 35 a 36 a 37 a 38 a 39 a 3a a 3b a 3c a 3d a 3e a 2p a 2q a",
   "2r a 2s a 2t a 2u a 2v a 2w a 2x a 2y a 2z a 30 a 31 a 32 a 33 a 34 a 35 a 36 a 37 a 38 a 39 a",
   "3a a 3b a 3c a 3d a 3e a 2p a 2q a 2r a 2s a 2t a 2u a 2v a 2w a 2x a 2y a 2z a 30 a 31 a 32 a",
   "33 a 34 a 35 a 36 a 37 a 38 a 39 a 3a a 3b a 3c a 3d a 3e a 2p a 2q a 2r a 2s a 2t a 2u a 2v a",
   "2w a 2x a 2y a 2z a 30 a 31 a 32 a 33 a 34 a 35 a 36 a 37 a 38 a 39 a 3a a 3b a 3c a 3d a 3e a",
   "2p a 2q a 2r a 2s a 2t a 2u a 2v a 2w a 2x a 2y a 2z a 30 a 31 a 32 a 33 a 34 a 35 a 36 a 37 a",
   "38 a 39 a 3a a 3b a 3c a 3d a 3e a 2p a 2q a 2r a 2s a 2t a 2u a 2v a 2w a 2x a 2y a 2z a 30 a",
   "31 a 32 a 33 a 34 a 35 a 36 a 37 a 38 a 39 a 3a a 3b a 3c a 3d a 3e a 2p a 2q a 2r a 2s a 2t a",
   "2u a 2v a 2w a 2x a 2y a 2z a 30 a 31 a 32 a 33 a 34 a 35 a 36 a 37 a 38 a 39 a 3a a 3b a 3c a",
   "3d a 3e a 2p a 2q a 2r a 2s a 2t a 2u a 2v a 2w a 2x a 2y a 2z a 30 a 31 a 32 a 33 a 34 a 35 a",
   "36 a 37 a 38 a 39 a 3a a 3b a 3c a 3d a 3e a 8h a fr f a q9 a qa a qb a qc a qd a qe a qf a qg",
   "a qh a qi a qj a qk a ql a qm a qn a qo a qp a qg a qr a qs a qt a qu a qv a qw a qx a 6pz a",
   "q9 a qa a qb a qc a qd a qe a qf a qg a qh a qi a qj a qk a ql a qm a qn a qo a qp g qr a qs a",
   "qt a qu a qv a qw a qx a 6pu a qd a qg a qi a qu a qp a qo a q9 a qa a qb a qc a qd a qe a qf",
   "a qg a qh a qi a qj a qk a ql a qm a qn a qo a qp a qg a qr a qs a qt a qu a qv a qw a qx a",
   "6pz a q9 a qa a qb a qc a qd a qe a qf a qg a qh a qi a qj a qk a ql a qm a qn a qo a qp g qr",
   "a qs a qt a qu a qv a qw a qx a 6pu a qd a qg a qi a qu a qp a qo a q9 a qa a qb a qc a qd a",
   "qe a qf a qg a qh a qi a qj a qk a ql a qm a qn a qo a qp a qg a qr a qs a qt a qu a qv a qw a",
   "qx a 6pz a q9 a qa a qb a qc a qd a qe a qf a qg a qh a qi a qj a qk a ql a qm a qn a qo a qp",
   "g qr a qs a qt a qu a qv a qw a qx a 6pu a qd a qg a qi a qu a qp a qo a q9 a qa a qb a qc a",
   "qd a qe a qf a qg a qh a qi a qj a qk a ql a qm a qn a qo a qp a qg a qr a qs a qt a qu a qv a",
   "qw a qx a 6pz a q9 a qa a qb a qc a qd a qe a qf a qg a qh a qi a qj a qk a ql a qm a qn a qo",
   "a qp g qr a qs a qt a qu a qv a qw a qx a 6pu a qd a qg a qi a qu a qp a qo a q9 a qa a qb a",
   "qc a qd a qe a qf a qg a qh a qi a qj a qk a ql a qm a qn a qo a qp a qg a qr a qs a qt a qu a",
   "qv a qw a qx a 6pz a q9 a qa a qb a qc a qd a qe a qf a qg a qh a qi a qj a qk a ql a qm a qn",
   "a qo a qp g qr a qs a qt a qu a qv a qw a qx a 6pu a qd a qg a qi a qu a qp a qo g rh f a 1c a",
   "1d a 1e a 1f a 1g a 1h a 1i a 1j a 1k a 1l a 1c a 1d a 1e a 1f a 1g a 1h a 1i a 1j a 1k a 1l a",
   "1c a 1d a 1e a 1f a 1g a 1h a 1i a 1j a 1k a 1l a 1c a 1d a 1e a 1f a 1g a 1h a 1i a 1j a 1k a",
   "1l a 1c a 1d a 1e a 1f a 1g a 1h a 1i a 1j a 1k a 1l 30o 2l u 9 2i 543 56 13 10 zl 16 9 2u f",
   "16 9 c 9 u x a ts a tt a tu a tv a tw a tx a ty a tz a u0 a u2 a u3 a u4 a u6 a u7 a u8 a u9 a",
   "ua a ub a uc a ud a ue a uf a ug a uj a ul a um a ww9 a yh a uu a uw a yx a xb a y7 a ts a tt",
   "a tu a tv a tw a tx a ty a tz a u0 a u2 a u3 a u6 a u7 a u9 a ub a uc a ud a ue a uf a ug a ui",
   "a uj a wh a uu a ut a v3 a x7 a wup a xd 5l 6 ir 7i l 2c f 1o r c 1hf 56 2x 9o x 6 25f 70 zr",
   "76 r 6 w3 56 9 3o 1f c 11f 16 9 o 9 c 9 2i 9 wu f 2o 6x a 2oma a 2omb a 2omc a 2omd a 2ome a",
   "2omf a 2omg a 2omh a 2omi a 2omj a 2omk a 2oml a 2omm a 2omn a 2omo a 2omp a 2omq a 2omr a",
   "2oms a 2omt a 2omu a 2omv a 2omw a 2omx a 2omy a 2omz a 2on0 a 2on1 a 2on2 a 2on3 a 2on4 a",
   "2on5 a 2on6 a 2on7 70 r 1o r c 3mx bc cr a6 wf a 17r a 17s a 17w a 17z 9 a 18o a 182 a 17x a",
   "187 a 18q a 18j a 18k a 18l a 18m a 183 a 189 a 18h a 185 a 18i a 181 a 184 a 17u a 17v a 17y",
   "a 180 a 186 a 188 a 18a a 19q a 1bu a 1b5 a 19r 9 a 17s a 17w 9 a 18n f a 17x 9 a 18q a 18j a",
   "18k a 18l a 18m a 183 a 189 a 18h a 185 a 18i 9 a 184 a 17u a 17v a 17y 9 a 186 9 a 18a 13 a",
   "17w r a 17x 9 a 18q 9 a 18k 9 a 18m a 183 a 189 9 a 185 a 18i 9 a 184 f a 17y 9 a 186 9 a 18a",
   "9 a 1bu 9 a 19r 9 a 17s a 17w 9 a 18n f a 17x a 187 a 18q a 18j 9 a 18l a 18m a 183 a 189 a",
   "18h a 185 a 18i 9 a 184 a 17u a 17v a 17y 9 a 186 a 188 a 18a a 19q 9 a 1b5 9 a 17r a 17s a",
   "17w a 17z a 18n a 18o a 182 a 17x a 187 a 18q 9 a 18k a 18l a 18m a 183 a 189 a 18h a 185 a",
   "18i a 181 a 184 a 17u a 17v a 17y a 180 a 186 a 188 a 18a x a 17s a 17w a 17z 9 a 18o a 182 a",
   "17x a 187 a 18q 9 a 18k a 18l a 18m a 183 a 189 a 18h a 185 a 18i a 181 a 184 a 17u a 17v a",
   "17y a 180 a 186 a 188 a 18a 8r c 193 7c r go 23 2i f 2i 9 2i 9 66 1x b 2 1c 18 b 2 1d 18 b 2",
   "1e 18 b 2 1f 18 b 2 1g 18 b 2 1h 18 b 2 1i 18 b 2 1j 18 b 2 1k 18 b 2 1l 18 u b 3 14 2p 15 b 3",
   "14 2q 15 b 3 14 2r 15 b 3 14 2s 15 b 3 14 2t 15 b 3 14 2u 15 b 3 14 2v 15 b 3 14 2w 15 b 3 14",
   "2x 15 b 3 14 2y 15 b 3 14 2z 15 b 3 14 30 15 b 3 14 31 15 b 3 14 32 15 b 3 14 33 15 b 3 14 34",
   "15 b 3 14 35 15 b 3 14 36 15 b 3 14 37 15 b 3 14 38 15 b 3 14 39 15 b 3 14 3a 15 b 3 14 3b 15",
   "b 3 14 3c 15 b 3 14 3d 15 b 3 14 3e 15 b 3 9hw 37 9hx a 2r a 36 b 2 2r 2s b 2 3b 3e 6 a 2p a",
   "2q a 2r a 2s a 2t a 2u a 2v a 2w a 2x a 2y a 2z a 30 a 31 a 32 a 33 a 34 a 35 a 36 a 37 a 38 a",
   "39 a 3a a 3b a 3c a 3d a 3e b 2 2w 3a b 2 31 3a b 2 37 2s b 2 37 37 b 3 34 34 3a b 2 3b 2r 4c",
   "b 2 31 2r b 2 31 2s b 2 31 36 5u b 2 2s 2y 4u 9f 4c b 2 9kr 9jf b 2 9mb 9mb a 9md 29 a jez a",
   "i1j a gjw a 9mv a fik a hlm a r8j a hm1 a fj8 a k68 a mch a k2h a g99 a ivg a g3x a k34 a g7x",
   "a oqq a n4v a rs9 a hkg a gmx a lxw a jh1 a jmd a feo a fex a si2 a ijq a ffx a gkz a jk7 a",
   "rxs a jf7 a o01 a o6y a glk a lts a kcp a kco a n5f a gaa a gxi a sp9 r b 3 9hw kdo 9hx b 3",
   "9hw fex 9hx b 3 9hw fik 9hx b 3 9hw i2x 9hx b 3 9hw m9l 9hx b 3 9hw jf7 9hx b 3 9hw nh3 9hx b",
   "3 9hw gd9 9hx b 3 9hw k0n 9hx 19 a ivr a gkv 2f 10 pr 4k6 l 2u l 26 l 10c 13 20 r 6 2l 20 r 9c",
   "1f 1o 13 6o 1f 50 f 20 r c 2f 1i 6l 1lc 1f 2c f 26 l 1u l 9i 9 6 r 2o f 20 r 1o 19 oi 9 fc a",
   "1c a 1d a 1e a 1f a 1g a 1h a 1i a 1j a 1k a 1l 6 4rl 5hs0 5f kac f qqc f yli 2l 2vo bf3 a fgd",
   "a fg8 a fgh a 2tcy a fog a fqm a fqz a fsy a fwa a fx5 a fzb a fyn a ae6 a 2ud6 a g25 a g2c a",
   "g2s a g3b a 2u58 a aex a g2v a g3x a 2u6j a g47 a g4k a fkc a g4s a g51 a 3ly7 a g6t a g77 a",
   "afz a g8r a g92 a gaa a gaf a ahh a gcn a gcp a gdg a ge2 a ged a gee a gev a gg9 a ggh a ggq",
   "a ghf a ghp m ghr a 2v58 a m7k a gju a gkf a 2vdv a gkr a gkx a gli a gpq a gmw a gnc a go8 a",
   "gpu a gs6 a gsw a gur a gv7 g gw4 a gwp a gx7 a gxf a gxu a h7a a gzq a h7b a h1t a h2s a g7b",
   "a hke a hce a hdg a he5 a haj a hf6 a hf5 a hik a 2x9g a hki a hkn a hl2 a hlm a hlu a hnm a",
   "2xm0 a 2xnu a hrg a hsr a ht3 a hqw a huu a aum a av0 a hzc g i0u a 2y88 a i4j a i54 a i5j a",
   "i5v a 2yhk a i67 a i6e a itv a i76 a ayp a i8w a i9a a ibk a ia5 a 2z1g a if7 a 2z1i a ige a",
   "igb a igs a ijl a ijm a b3j a ikd a ilk a im5 a ind a b4y a 2zr7 a b5o a ipc a ipf a ipi a iq2",
   "a 3pg2 a iri g 3035 a poh g isi a b7r a 335k a 3cgq a iua a iuj a b8j a ivu a ix9 a ixj a iyh",
   "a j29 a bay a ba4 a j2s a 30t0 a j47 a j7s a j7w a j7y a j7w a j96 a j9q a jaq a jac a jan a",
   "jby a jci a jcm a jdc a jdn a jfh a jht a jis a jm8 a 31n0 a jlp a jjw a jmw a jnn a jqc a",
   "31td a js2 a jph a jop a bhq a ju1 a jum a jvh a juf a bjg a k0f a k18 a 32mi a k4j a kc8 a",
   "k7d a bo9 a k9d a bns a bms a g42 a g45 a kcg a k9o a pf1 a deh a kd3 a kd7 a kdd a kf2 a ker",
   "a 33cz a bpl a kje a kg5 a klu a kn9 a 33hp a kni a kkf a kr8 a brx a ksi a kv7 a kx6 a l2g a",
   "33xf a l3v a bvc a l5t a 34br a l78 a bwu a l82 a l9b a la2 a la3 a 34p9 a 2yvf a 34sa a le6 a",
   "354s a lhb a lhp a lev a ljq a lku a lmf a lkx a lm1 a lmg a lmt a 357i a lkk a lrj a lta a",
   "c37 a lvv a lvr a 35jl a lq1 a m0e a 35ni a 35ou a m2u a m61 a m5a a m57 a c5y a m6i a m7x a",
   "m7r a m99 a 2u5h a mdh a 368z a mfw a 36i3 a mjs a mk5 a mkw a 36yw a mm8 a mmt a 3779 a 37dg",
   "a mt6 a mtn a cdo a mud g ce0 a myv a mzg a n01 a n0l a n2i a cgr a n50 a 386u a n5q a 389e a",
   "n74 a 2zrz a nbk a 38v5 a 38vs a 38zo a cn0 a cnc a nhw a 394j a 394i a 395l a 396b a nj2 g",
   "nj3 a nka a cop a nm3 a cp2 a cra a 39r1 a nri a nt8 a nv0 a ctf a 3a5i a nyu a 3a8q a 3a9x a",
   "o0f a o2z a cvj a o5c a o5m a o5r a 3at8 g 3b1j a oa6 a d1e a 3b8r a og6 a og9 a d2f a 3beo a",
   "onm a d5s a oo8 a oo3 a oow a 3c06 a orn a d8h a ouf a ow2 a oxx a d9w a 3ciw a 3cjr a dax a",
   "3cnt a p6i a 3cqm a p79 a pa2 a pad a 3d22 a 3d43 a pcw a 3d7s a pdc a 33a7 a ded a pf6 a phf",
   "a dfv a pj2 a hx1 a 3dlz a 3dmd a 33bn a 33bw a poh a pok a sda a dij a psh a psb a pst a gc3",
   "a ptd a ptf a ptp a puu a 3ebg a put a pwd a pyb a q0d a pwj a q0t a q1z a q53 a pxv a q16 a",
   "q18 a q1o a 3eie a 3eqz a 3emt a dnv a q9d a q9f a qae a 3g0a a qck a 3f3g a dp9 a dpd a 3f75",
   "a 3ff6 a dpn a qj4 a qjg a qjr a qjt a qll a qko a qoe a qn6 a qrd a qp4 a qqz a qrq a dsn a",
   "qu9 a qv5 a dtl a qxs a qxv a 3giv a r13 a r1a a dv9 a r22 a aez a 3gz2 a 3h46 a dz2 a dzb a",
   "rds a rfx a rka a rpx a 3hrc a rsb a rsx a rvf a rxz a 3i9b a 2upw a s0b a rzw a s1c a 2uvy a",
   "s7o a sag a 3jki a 3jl9 a sk4 a smp a snl a 3ju6 a snv a svs a t07 a t08 a sxo a t89 a t91 a",
   "3ksa a tjf a ej9 a tkn a 3l2v a eli a ts3 a iia a tur a 3ltx a 3lzu a epa a epi a u00 a 3mdm a",
   "er6 a 3mhi g u17 a u21 a 3mpi a u76 a eur a u95 a ucn a ude a uf2 a ez2 a 3nsg a umq a uv4 a",
   "v0d a f66 a f71 a v3b a 3owe a f7c a 3oxx a 3p5a a 3p8x a vcr a f9y a veh a vem a vet a vf3 a",
   "vfa a vgb a 3pxc 6z3 mv6 x 13b0 2j0h3 142 p7xf"]

end Gatehouse.Unicode
