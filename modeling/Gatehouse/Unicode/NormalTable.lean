/-!
# Packed decompositions and combining classes

Canonical decompositions of single characters and the classes that order marks.
Numbers are written in
base 36 with blanks between them.
-/

namespace Gatehouse.Unicode

/-- For each character with a decomposition, in increasing order: `3 * d + k`, where `d` is the
distance from the previous one; `k = 0` announces one character, `k = 1` two, and `k = 2` two that
also compose again. -/
def decompositions : List String :=
  ["g2 1t lc 5 1t ld 5 1t le 5 1t lf 5 1t lk 5 1t lm 8 1v mf 5 1x lc 5 1x ld 5 1x le 5 1x lk 5 21",
   "lc 5 21 ld 5 21 le 5 21 lk 8 26 lf 5 27 lc 5 27 ld 5 27 le 5 27 lf 5 27 lk b 2d lc 5 2d ld 5",
   "2d le 5 2d lk 5 2h ld b 2p lc 5 2p ld 5 2p le 5 2p lf 5 2p lk 5 2p lm 8 2r mf 5 2t lc 5 2t ld",
   "5 2t le 5 2t lk 5 2x lc 5 2x ld 5 2x le 5 2x lk 8 32 lf 5 33 lc 5 33 ld 5 33 le 5 33 lf 5 33",
   "lk b 39 lc 5 39 ld 5 39 le 5 39 lk 5 3d ld 8 3d lk 5 1t lg 5 2p lg 5 1t li 5 2p li 5 1t mg 5",
   "2p mg 5 1v ld 5 2r ld 5 1v le 5 2r le 5 1v lj 5 2r lj 5 1v lo 5 2r lo 5 1w lo 5 2s lo b 1x lg",
   "5 2t lg 5 1x li 5 2t li 5 1x lj 5 2t lj 5 1x mg 5 2t mg 5 1x lo 5 2t lo 5 1z le 5 2v le 5 1z",
   "li 5 2v li 5 1z lj 5 2v lj 5 1z mf 5 2v mf 5 20 le 5 2w le b 21 lf 5 2x lf 5 21 lg 5 2x lg 5",
   "21 li 5 2x li 5 21 mg 5 2x mg 5 21 lj e 22 le 5 2y le 5 23 mf 5 2z mf 8 24 ld 5 30 ld 5 24 mf",
   "5 30 mf 5 24 lo 5 30 lo h 26 ld 5 32 ld 5 26 mf 5 32 mf 5 26 lo 5 32 lo e 27 lg 5 33 lg 5 27",
   "li 5 33 li 5 27 ln 5 33 ln b 2a ld 5 36 ld 5 2a mf 5 36 mf 5 2a lo 5 36 lo 5 2b ld 5 37 ld 5",
   "2b le 5 37 le 5 2b mf 5 37 mf 5 2b lo 5 37 lo 5 2c mf 5 38 mf 5 2c lo 5 38 lo b 2d lf 5 39 lf",
   "5 2d lg 5 39 lg 5 2d li 5 39 li 5 2d lm 5 39 lm 5 2d ln 5 39 ln 5 2d mg 5 39 mg 5 2f le 5 3b",
   "le 5 2h le 5 3d le 5 2h lk 5 2i ld 5 3e ld 5 2i lj 5 3e lj 5 2i lo 5 3e lo 2w 27 m3 5 33 m3 18",
   "2d m3 5 39 m3 2h 1t lo 5 2p lo 5 21 lo 5 2x lo 5 27 lo 5 33 lo 5 2d lo 5 39 lo 5 64 lg 5 70 lg",
   "5 64 ld 5 70 ld 5 64 lo 5 70 lo 5 64 lc 5 70 lc 8 5g lg 5 6c lg 5 fa lg 5 fb lg 5 5i lg 5 6e",
   "lg b 1z lo 5 2v lo 5 23 lo 5 2z lo 5 27 mg 5 33 mg 5 dm lg 5 dn lg 5 c7 lo 5 ia lo 5 2y lo e",
   "1z ld 5 2v ld b 26 lc 5 32 lc 5 5h ld 5 6d ld 5 5i ld 5 6e ld 5 60 ld 5 6w ld 5 1t lr 5 2p lr",
   "5 1t lt 5 2p lt 5 1x lr 5 2t lr 5 1x lt 5 2t lt 5 21 lr 5 2x lr 5 21 lt 5 2x lt 5 27 lr 5 33",
   "lr 5 27 lt 5 33 lt 5 2a lr 5 36 lr 5 2a lt 5 36 lt 5 2d lr 5 39 lr 5 2d lt 5 39 lt 5 2b me 5",
   "37 me 5 2c me 5 38 me b 20 lo 5 2w lo n 1t lj 5 2p lj 5 1x mf 5 2t mf 5 5y lg 5 6u lg 5 5x lg",
   "5 6t lg 5 27 lj 5 33 lj 5 fi lg 5 fj lg 5 2h lg 5 3d lg mf lc 3 ld 6 lv 4 lk ld 40 jd u 1n n",
   "4o ld 5 pd ld 3 53 5 ph ld 5 pj ld 5 pl ld 8 pr ld 8 px ld 5 q1 ld 5 qy ld 28 pl lk 5 px lk 5",
   "q9 ld 5 qd ld 5 qf ld 5 qh ld 5 qz ld 28 qh lk 5 qt lk 5 qn ld 5 qt ld 5 qx ld h r6 ld 5 r6 lk",
   "3q t1 lc 5 t1 lk 8 sz ld e sm lk h t6 ld 5 t4 lc 5 tf li z t4 li 2q u0 li 1z tx lc 5 tx lk 8",
   "tv ld e uu lk h u2 ld 5 u0 lc 5 ub li 22 vo lr 5 vp lr 68 t2 li 5 ty li 18 sw li 5 ts li 5 sw",
   "lk 5 ts lk b t1 li 5 tx li b yg lk 5 yh lk 5 t2 lk 5 ty lk 5 t3 lk 5 tz lk b t4 lg 5 u0 lg 5",
   "t4 lk 5 u0 lk 5 ta lk 5 u6 lk b yw lk 5 yx lk 5 tp lk 5 ul lk 5 tf lg 5 ub lg 5 tf lk 5 ub lk",
   "5 tf ln 5 ub ln 5 tj lk 5 uf lk b tn lk 5 uj lk ot 17r 18z 5 17r 190 5 18o 190 5 17r 191 5 18q",
   "190 cw 1cl 190 8 1c1 190 1h 1ci 190 1dw 1t4 1to q 1tc 1to b 1tf 1to 31 1sl 1to 4 1sm 1to 4 1sn",
   "1to 4 1ss 1to 4 1sx 1to 4 1sy 1to 4 1t7 1to 4 1tb 1to 92 1xj 1xa 5 1xj 1xz 1d 1wh 1x8 4 1wi",
   "1x8 7 1wv 1x8 71 20i 20s a 20o 20s 2y 1zq 20s 4 1zr 20s 4 1zw 20s a 20b 20s jk 287 28m b 287",
   "27y 5 287 28n 1d 275 27w 4 276 27w 4n 2aa 2c7 4k 2bq 2bi 5 2br 2bi 5 2bq 2c7 ae 2fa 2fq a2 2in",
   "2j9 n 2iu 2j9 5 2iu 2ja 8 2iu 2iq 5 2iy 2j9 an 2me 2m6 5 2mf 2m6 5 2me 2mv bw 2qh 2q2 8 2qh",
   "2q7 5 2qk 2q2 5 2qh 2qn ts 30i 33r v 30s 33r g 30x 33r g 312 33r g 317 33r 14 30g 33p v 31t",
   "31u 7 31t 31w 4 33m 328 7 33n 328 s 31t 328 1j 32q 33r v 330 33r g 335 33r g 33a 33r g 33f 33r",
   "14 32o 33p 95 36t 372 6g2 5c5 5dh 8 5c7 5dh 8 5c9 5dh 8 5cb 5dh 8 5cd 5dh e 5ch 5dh 3h 5dm 5dh",
   "8 5do 5dh b 5dq 5dh 5 5dr 5dh 8 5du 5dh 1mh 1t md 5 2p md 5 1u lj 5 2q lj 5 1u mb 5 2q mb 5 1u",
   "mp 5 2q mp 5 5j ld 5 6f ld 5 1w lj 5 2s lj 5 1w mb 5 2s mb 5 1w mp 5 2s mp 5 1w mf 5 2s mf 5",
   "1w ml 5 2s ml 5 7m lc 5 7n lc 5 7m ld 5 7n ld 5 1x ml 5 2t ml 5 1x mo 5 2t mo 5 fc li 5 fd li",
   "5 1y lj 5 2u lj 5 1z lg 5 2v lg 5 20 lj 5 2w lj 5 20 mb 5 2w mb 5 20 lk 5 2w lk 5 20 mf 5 2w",
   "mf 5 20 mm 5 2w mm 5 21 mo 5 2x mo 5 5r ld 5 6n ld 5 23 ld 5 2z ld 5 23 mb 5 2z mb 5 23 mp 5",
   "2z mp 5 24 mb 5 30 mb 5 5yu lg 5 5yv lg 5 24 mp 5 30 mp 5 24 ml 5 30 ml 5 25 ld 5 31 ld 5 25",
   "lj 5 31 lj 5 25 mb 5 31 mb 5 26 lj 5 32 lj 5 26 mb 5 32 mb 5 26 mp 5 32 mp 5 26 ml 5 32 ml 5",
   "5x ld 5 6t ld 5 5x lk 5 6t lk 5 98 lc 5 99 lc 5 98 ld 5 99 ld 5 28 ld 5 34 ld 5 28 lj 5 34 lj",
   "5 2a lj 5 36 lj 5 2a mb 5 36 mb 5 5zu lg 5 5zv lg 5 2a mp 5 36 mp 5 2b lj 5 37 lj 5 2b mb 5 37",
   "mb 5 9m lj 5 9n lj 5 9s lj 5 9t lj 5 602 lj 5 603 lj 5 2c lj 5 38 lj 5 2c mb 5 38 mb 5 2c mp 5",
   "38 mp 5 2c ml 5 38 ml 5 2d mc 5 39 mc 5 2d mo 5 39 mo 5 2d ml 5 39 ml 5 a0 ld 5 a1 ld 5 a2 lk",
   "5 a3 lk 5 2e lf 5 3a lf 5 2e mb 5 3a mb 5 2f lc 5 3b lc 5 2f ld 5 3b ld 5 2f lk 5 3b lk 5 2f",
   "lj 5 3b lj 5 2f mb 5 3b mb 5 2g lj 5 3c lj 5 2g lk 5 3c lk 5 2h lj 5 3d lj 5 2i le 5 3e le 5",
   "2i mb 5 3e mb 5 2i mp 5 3e mp 5 2w mp 5 38 lk 5 3b lm 5 3d lm 8 an lj h 1t mb 5 2p mb 5 1t ll",
   "5 2p ll 5 5e ld 5 6a ld 5 5e lc 5 6a lc 5 5e ll 5 6a ll 5 5e lf 5 6a lf 5 61s le 5 61t le 5 76",
   "ld 5 77 ld 5 76 lc 5 77 lc 5 76 ll 5 77 ll 5 76 lf 5 77 lf 5 61s li 5 61t li 5 1x mb 5 2t mb 5",
   "1x ll 5 2t ll 5 1x lf 5 2t lf 5 5m ld 5 6i ld 5 5m lc 5 6i lc 5 5m ll 5 6i ll 5 5m lf 5 6i lf",
   "5 62g le 5 62h le 5 21 ll 5 2x ll 5 21 mb 5 2x mb 5 27 mb 5 33 mb 5 27 ll 5 33 ll 5 5w ld 5 6s",
   "ld 5 5w lc 5 6s lc 5 5w ll 5 6s ll 5 5w lf 5 6s lf 5 630 le 5 631 le 5 bk ld 5 bl ld 5 bk lc 5",
   "bl lc 5 bk ll 5 bl ll 5 bk lf 5 bl lf 5 bk mb 5 bl mb 5 2d mb 5 39 mb 5 2d ll 5 39 ll 5 bz ld",
   "5 c0 ld 5 bz lc 5 c0 lc 5 bz ll 5 c0 ll 5 bz lf 5 c0 lf 5 bz mb 5 c0 mb 5 2h lc 5 3d lc 5 2h",
   "mb 5 3d mb 5 2h ll 5 3d ll 5 2h lf 5 3d lf n q9 lv 5 q9 lw 5 64g lc 5 64h lc 5 64g ld 5 64h ld",
   "5 64g n6 5 64h n6 5 pd lv 5 pd lw 5 64o lc 5 64p lc 5 64o ld 5 64p ld 5 64o n6 5 64p n6 5 qd",
   "lv 5 qd lw 5 64w lc 5 64x lc 5 64w ld 5 64x ld b ph lv 5 ph lw 5 654 lc 5 655 lc 5 654 ld 5",
   "655 ld b qf lv 5 qf lw 5 65c lc 5 65d lc 5 65c ld 5 65d ld 5 65c n6 5 65d n6 5 pj lv 5 pj lw 5",
   "65k lc 5 65l lc 5 65k ld 5 65l ld 5 65k n6 5 65l n6 5 qh lv 5 qh lw 5 65s lc 5 65t lc 5 65s ld",
   "5 65t ld 5 65s n6 5 65t n6 5 pl lv 5 pl lw 5 660 lc 5 661 lc 5 660 ld 5 661 ld 5 660 n6 5 661",
   "n6 5 qn lv 5 qn lw 5 668 lc 5 669 lc 5 668 ld 5 669 ld b pr lv 5 pr lw 5 66g lc 5 66h lc 5 66g",
   "ld 5 66h ld b qt lv 5 qt lw 5 66o lc 5 66p lc 5 66o ld 5 66p ld 5 66o n6 5 66p n6 8 px lw 8",
   "66x lc 8 66x ld 8 66x n6 5 qx lv 5 qx lw 5 674 lc 5 675 lc 5 674 ld 5 675 ld 5 674 n6 5 675 n6",
   "5 q1 lv 5 q1 lw 5 67c lc 5 67d lc 5 67c ld 5 67d ld 5 67c n6 5 67d n6 5 q9 lc 3 q4 5 qd lc 3",
   "q5 5 qf lc 3 q6 5 qh lc 3 q7 5 qn lc 3 r0 5 qt lc 3 r1 5 qx lc 3 r2 b 64g n9 5 64h n9 5 64i n9",
   "5 64j n9 5 64k n9 5 64l n9 5 64m n9 5 64n n9 5 64o n9 5 64p n9 5 64q n9 5 64r n9 5 64s n9 5",
   "64t n9 5 64u n9 5 64v n9 5 65c n9 5 65d n9 5 65e n9 5 65f n9 5 65g n9 5 65h n9 5 65i n9 5 65j",
   "n9 5 65k n9 5 65l n9 5 65m n9 5 65n n9 5 65o n9 5 65p n9 5 65q n9 5 65r n9 5 674 n9 5 675 n9 5",
   "676 n9 5 677 n9 5 678 n9 5 679 n9 5 67a n9 5 67b n9 5 67c n9 5 67d n9 5 67e n9 5 67f n9 5 67g",
   "n9 5 67h n9 5 67i n9 5 67j n9 5 q9 li 5 q9 lg 5 67k n9 5 q9 n9 5 q4 n9 8 q9 n6 5 69i n9 5 pd",
   "li 5 pd lg 5 pd lc 3 p2 5 pd n9 6 qh b 4o n6 5 67o n9 5 qf n9 5 q6 n9 8 qf n6 5 69y n9 5 ph lc",
   "3 p4 5 pj lc 3 p5 5 pj n9 5 69r lc 5 69r ld 5 69r n6 5 qh li 5 qh lg 5 qy lc 3 pc b qh n6 5 qy",
   "n6 5 pl li 5 pl lg 5 pl lc 3 p6 8 6bi lc 5 6bi ld 5 6bi n6 5 qt li 5 qt lg 5 qz lc 3 q8 5 qp",
   "lv 5 qp lw 5 qt n6 5 qz n6 5 px li 5 px lg 5 px lc 3 pa 5 pt lw 5 4o lc 3 p1 3 2o b 67w n9 5",
   "qx n9 5 r2 n9 8 qx n6 5 6ba n9 5 pr lc 3 p8 5 q1 lc 3 pb 5 q1 n9 3 50 9 6bm 3 6bn of q1 c 23 3",
   "5h 9b 6mo mw 5 6mq mw 1n 6ms mw 2n 6og mw 5 6ok mw 5 6oi mw 4h 6pv mw h 6q0 mw b 6q3 mw 22 6qr",
   "mw 8 6qt mw 2b 6rg mw b 6rn mw b 6rp mw 8 6rs mw 1z 1p mw 8 6sh mw z 6rx mw 5 1o mw 5 1q mw 5",
   "6sk mw 5 6sl mw b 6sy mw 5 6sz mw b 6t2 mw 5 6t3 mw n 6t6 mw 5 6t7 mw b 6te mw 5 6tf mw b 6ti",
   "mw 5 6tj mw 2z 6ua mw 5 6ug mw 5 6uh mw 5 6uj mw 45 6t8 mw 5 6t9 mw 5 6tt mw 5 6tu mw n 6uq mw",
   "5 6ur mw 5 6us mw 5 6ut mw 50 9hk 3 9hl 4k7 8gt mw 382 9jf 9ll 8 9jh 9ll 8 9jj 9ll 8 9jl 9ll 8",
   "9jn 9ll 8 9jp 9ll 8 9jr 9ll 8 9jt 9ll 8 9jv 9ll 8 9jx 9ll 8 9jz 9ll 8 9k1 9ll b 9k4 9ll 8 9k6",
   "9ll 8 9k8 9ll n 9kf 9ll 5 9kf 9lm 8 9ki 9ll 5 9ki 9lm 8 9kl 9ll 5 9kl 9lm 8 9ko 9ll 5 9ko 9lm",
   "8 9kr 9ll 5 9kr 9lm 1z 9ja 9ll w 9lp 9ll 18 9m3 9ll 8 9m5 9ll 8 9m7 9ll 8 9m9 9ll 8 9mb 9ll 8",
   "9md 9ll 8 9mf 9ll 8 9mh 9ll 8 9mj 9ll 8 9ml 9ll 8 9mn 9ll 8 9mp 9ll b 9ms 9ll 8 9mu 9ll 8 9mw",
   "9ll n 9n3 9ll 5 9n3 9lm 8 9n6 9ll 5 9n6 9lm 8 9n9 9ll 5 9n9 9lm 8 9nc 9ll 5 9nc 9lm 8 9nf 9ll",
   "5 9nf 9lm 1z 9ly 9ll b 9nz 9ll 5 9o0 9ll 5 9o1 9ll 5 9o2 9ll e 9od 9ll 3aiu rpk 3 kc4 3 s7e 3",
   "rt4 3 lw1 3 fg2 3 gkl 3 vj0 3 vj0 3 hn5 3 ssx 3 gw7 3 hmw 3 jcm 3 ne1 3 p6t 3 qin 3 qt6 3 r20",
   "3 sjz 3 kxu 3 ljv 3 mah 3 mvy 3 q4d 3 sq2 3 uep 3 fia 3 ghh 3 l50 3 mjf 3 qi5 3 v8e 3 ifk 3",
   "m3v 3 qfh 3 r50 3 jih 3 pnc 3 qvz 3 iq2 3 kd3 3 lm2 3 mpo 3 slq 3 fpi 3 g53 3 gda 3 jwk 3 l3n",
   "3 mj4 3 nhj 3 pa9 3 qh2 3 qjg 3 s1b 3 tv6 3 upb 3 v7e 3 nt8 3 nzz 3 otc 3 q15 3 t1g 3 vb3 3",
   "rfa 3 hjz 3 iro 3 okg 3 pdq 3 mle 3 nuy 3 rsy 3 ttj 3 hjs 3 i8y 3 kyb 3 lp6 3 lxr 3 oq7 3 oxj",
   "3 tor 3 gcy 3 pe3 3 g64 3 g5o 3 o4c 3 ou6 3 q29 3 tpx 3 rk0 3 jin 3 kxu 3 rge 3 fg9 3 i5j 3",
   "iz6 3 mtj 3 n74 3 gev 3 nwb 3 fr3 3 iw9 3 ff1 3 lho 3 k1k 3 opu 3 gjn 3 hge 3 ni9 3 q4p 3 re2",
   "3 la2 3 sds 3 lfs 3 jjy 3 put 3 jog 3 n6t 3 fji 3 g2x 3 g5l 3 kn5 3 oo7 3 prj 3 rf6 3 ssv 3",
   "gdx 3 gn6 3 ho3 3 ir0 3 k3p 3 m4e 3 nxm 3 tkd 3 ui2 3 vbr 3 vda 3 gbf 3 kau 3 l87 3 sbm 3 ino",
   "3 j9s 3 jcw 3 jve 3 lyb 3 mdl 3 n0p 3 o22 3 ovo 3 pdb 3 s9y 3 q9a 3 sgz 3 t3e 3 g7r 3 gbn 3",
   "gql 3 ma0 3 r0i 3 re2 3 iq1 3 iyd 3 jnf 3 l9q 3 oji 3 mt1 3 fl0 3 h6h 3 i5j 3 iii 3 izg 3 muq",
   "3 mzt 3 p7e 3 pc6 3 svo 3 tti 3 tvs 3 u1k 3 fpn 3 o1a 3 ss4 3 trs 3 j4x 3 fie 3 fyy 3 i5q 3",
   "i7z 3 k2h 3 kxu 3 mha 3 ncy 3 q9o 3 sjg 3 vil 3 k94 3 tny 3 gax 3 kfv 3 kj7 3 lkx 3 luk 3 mx5",
   "3 n6h 3 nsb 3 opc 3 u3i 3 g31 3 je6 3 tq0 3 fu3 3 ie1 3 lpm 3 sa2 3 ivf 3 j7o 3 kk7 3 mtj 3",
   "tqe 3 g89 3 glr 3 i91 3 k5v 3 kem 3 ko8 3 lid 3 mx2 3 naa 3 p6h 3 r0v 3 r1d 3 sss 3 tsy 3 gfz",
   "3 lve 3 gm5 3 mhc 3 n14 3 qgq 3 tr7 3 uvr 3 vbz 3 kgn 3 lor 3 pns 3 o97 3 obk 3 olu 3 mo0 3",
   "m8p 3 riw 3 fk0 3 px2 3 g8q 3 g7b 3 ip2 3 jir 3 onq 3 i2t 3 ljy 3 kac 3 saj 3 qx8 3 tot 3 r63",
   "3 iqb 3 g1s 3 gxs 9 hga 6 k8k 9 g66 3 mqy 3 ngq 3 ny4 3 nz2 3 nz9 3 o0f 3 tw6 3 on2 3 p8d 6",
   "qhe 6 rg8 9 shk 3 sn1 c u7j 3 u7w 3 u94 3 v5g 3 sm6 3 trr 3 fqm 3 fzb 3 g25 3 gcp 3 gdg 3 ggh",
   "3 gwt 3 gzq 3 h2g 3 hfk 3 hig 3 i90 3 i9a 3 j2s 3 j8o 3 j9q 3 jci 3 k0f 3 k4i 3 k9d 3 kn9 3",
   "lmf 3 lqy 3 lya 3 mem 3 mjv 3 mxu 3 ntd 3 ny6 3 nyh 3 nyg 3 nyo 3 nyu 3 nz1 3 o0d 3 o0e 3 o5c",
   "3 o75 3 og0 3 ovo 3 ow9 3 oxt 3 p6a 3 pad 3 pnx 3 prt 3 prt 3 q53 3 r2o 3 r6e 3 rgh 3 ri1 3",
   "rtf 3 ruw 3 sdy 3 shk 3 tsz 3 u0v 3 u2j 3 j1x 3 36cu 3 pp4 9 ffq 3 g51 3 g2w 3 fpc 3 g1x 3 g3k",
   "3 gcn 3 ge2 3 gwt 3 gut 3 gwp 3 gyq 3 hga 3 hir 3 hms 3 hn8 3 huq 3 i08 3 iqa 3 iqh 3 iuh 3",
   "iwd 3 j4o 3 j7y 3 j60 3 j9q 3 j8g 3 jci 3 jec 3 jpg 3 jrw 3 jte 3 k0m 3 k8k 3 kd3 3 kd7 3 keu",
   "3 l89 3 la2 3 lkx 3 lwb 3 lvv 3 lya 3 m5a 3 mem 3 nmv 3 mk5 3 mnj 3 mqy 3 n01 3 n46 3 n5n 3",
   "nbx 3 nbz 3 ngq 3 nh7 3 nhw 3 nka 3 nk0 3 nv0 3 o8h 3 og0 3 ol7 3 orf 3 ovo 3 p4u 3 pad 3 pxu",
   "3 q27 3 qrd 3 r41 3 r5y 3 r6e 3 ren 3 rg8 3 rez 3 rgh 3 rge 3 rfx 3 ri1 3 rka 3 ruw 3 sag 3",
   "sj6 3 srd 3 sxi 3 tq4 3 tsz 3 tw6 3 tzv 3 u0v 3 u17 3 u2j 3 umq 3 vj0 3 313e 3 3138 3 33dh 3",
   "brx 3 cns 3 cop 3 39e1 3 3bgw 3 3i6r 3 vgj 3 vim 5p 15l 14k 7 16a 14n y 161 14x 4 161 14y 4",
   "1dmx 14x 4 1dmx 14y 4 15c 14n 4 15c 14o 4 15c 14s 4 15d 14s 4 15e 14s 4 15f 14s 4 15g 14s 4",
   "15h 14s 4 15i 14s 7 15k 14s 4 15l 14s 4 15m 14s 4 15n 14s 4 15o 14s 7 15q 14s 7 15s 14s 4 15t",
   "14s 7 15v 14s 4 15w 14s 7 15y 14s 4 15z 14s 4 160 14s 4 161 14s 4 162 14s 4 15h 14p 4 15d 14v",
   "4 15n 14v 4 15w 14v cme 1huh 1hve 8 1huj 1hve 1b 1hut 1hve az 1hyp 1hyf 5 1hyq 1hyf 192 1idj",
   "1ida 5 1idj 1idz un 1int 1inu 5 1int 1ink 8 1int 1inx l2 1iuw 1iun 5 1iux 1iun 22h 1jjp 1jjk",
   "314j 2jx3 2jxh 4 2jx4 2jxh 4 2jxb 2jxq 4 2jxb 2jxr 4 2jxb 2jxs 4 2jxb 2jxt 4 2jxb 2jxu 7a 2jzt",
   "2jxh 4 2jzu 2jxh 4 2jzv 2jxq 4 2jzw 2jxq 4 2jzv 2jxr 4 2jzw 2jxr 4udc fgd 3 fg8 3 fgh 3 2tcy 3",
   "fog 3 fqm 3 fqz 3 fsy 3 fwa 3 fx5 3 fzb 3 fyn 3 ae6 3 2ud6 3 g25 3 g2c 3 g2s 3 g3b 3 2u58 3",
   "aex 3 g2v 3 g3x 3 2u6j 3 g47 3 g4k 3 fkc 3 g4s 3 g51 3 3ly7 3 g6t 3 g77 3 afz 3 g8r 3 g92 3",
   "gaa 3 gaf 3 ahh 3 gcn 3 gcp 3 gdg 3 ge2 3 ged 3 gee 3 gev 3 gg9 3 ggh 3 ggq 3 ghf 3 ghp 3 ghr",
   "3 ghr 3 ghr 3 2v58 3 m7k 3 gju 3 gkf 3 2vdv 3 gkr 3 gkx 3 gli 3 gpq 3 gmw 3 gnc 3 go8 3 gpu 3",
   "gs6 3 gsw 3 gur 3 gv7 3 gw4 3 gw4 3 gwp 3 gx7 3 gxf 3 gxu 3 h7a 3 gzq 3 h7b 3 h1t 3 h2s 3 g7b",
   "3 hke 3 hce 3 hdg 3 he5 3 haj 3 hf6 3 hf5 3 hik 3 2x9g 3 hki 3 hkn 3 hl2 3 hlm 3 hlu 3 hnm 3",
   "2xm0 3 2xnu 3 hrg 3 hsr 3 ht3 3 hqw 3 huu 3 aum 3 av0 3 hzc 3 i0u 3 i0u 3 2y88 3 i4j 3 i54 3",
   "i5j 3 i5v 3 2yhk 3 i67 3 i6e 3 itv 3 i76 3 ayp 3 i8w 3 i9a 3 ibk 3 ia5 3 2z1g 3 if7 3 2z1i 3",
   "ige 3 igb 3 igs 3 ijl 3 ijm 3 b3j 3 ikd 3 ilk 3 im5 3 ind 3 b4y 3 2zr7 3 b5o 3 ipc 3 ipf 3 ipi",
   "3 iq2 3 3pg2 3 iri 3 3035 3 3035 3 poh 3 isi 3 isi 3 b7r 3 335k 3 3cgq 3 iua 3 iuj 3 b8j 3 ivu",
   "3 ix9 3 ixj 3 iyh 3 j29 3 bay 3 ba4 3 j2s 3 30t0 3 j47 3 j7s 3 j7w 3 j7y 3 j7w 3 j96 3 j9q 3",
   "jaq 3 jac 3 jan 3 jby 3 jci 3 jcm 3 jdc 3 jdn 3 jfh 3 jht 3 jis 3 jm8 3 31n0 3 jlp 3 jjw 3 jmw",
   "3 jnn 3 jqc 3 31td 3 js2 3 jph 3 jop 3 bhq 3 ju1 3 jum 3 jvh 3 juf 3 bjg 3 k0f 3 k18 3 32mi 3",
   "k4j 3 kc8 3 k7d 3 bo9 3 k9d 3 bns 3 bms 3 g42 3 g45 3 kcg 3 k9o 3 pf1 3 deh 3 kd3 3 kd7 3 kdd",
   "3 kf2 3 ker 3 33cz 3 bpl 3 kje 3 kg5 3 klu 3 kn9 3 33hp 3 kni 3 kkf 3 kr8 3 brx 3 ksi 3 kv7 3",
   "kx6 3 l2g 3 33xf 3 l3v 3 bvc 3 l5t 3 34br 3 l78 3 bwu 3 l82 3 l9b 3 la2 3 la3 3 34p9 3 2yvf 3",
   "34sa 3 le6 3 354s 3 lhb 3 lhp 3 lev 3 ljq 3 lku 3 lmf 3 lkx 3 lm1 3 lmg 3 lmt 3 357i 3 lkk 3",
   "lrj 3 lta 3 c37 3 lvv 3 lvr 3 35jl 3 lq1 3 m0e 3 35ni 3 35ou 3 m2u 3 m61 3 m5a 3 m57 3 c5y 3",
   "m6i 3 m7x 3 m7r 3 m99 3 2u5h 3 mdh 3 368z 3 mfw 3 36i3 3 mjs 3 mk5 3 mkw 3 36yw 3 mm8 3 mmt 3",
   "3779 3 37dg 3 mt6 3 mtn 3 cdo 3 mud 3 ce0 3 ce0 3 myv 3 mzg 3 n01 3 n0l 3 n2i 3 cgr 3 n50 3",
   "386u 3 n5q 3 389e 3 n74 3 2zrz 3 nbk 3 38v5 3 38vs 3 38zo 3 cn0 3 cnc 3 nhw 3 394j 3 394i 3",
   "395l 3 396b 3 nj2 3 nj3 3 nj3 3 nka 3 cop 3 nm3 3 cp2 3 cra 3 39r1 3 nri 3 nt8 3 nv0 3 ctf 3",
   "3a5i 3 nyu 3 3a8q 3 3a9x 3 o0f 3 o2z 3 cvj 3 o5c 3 o5m 3 o5r 3 3at8 3 3b1j 3 3b1j 3 oa6 3 d1e",
   "3 3b8r 3 og6 3 og9 3 d2f 3 3beo 3 onm 3 d5s 3 oo8 3 oo3 3 oow 3 3c06 3 orn 3 d8h 3 ouf 3 ow2 3",
   "oxx 3 d9w 3 3ciw 3 3cjr 3 dax 3 3cnt 3 p6i 3 3cqm 3 p79 3 pa2 3 pad 3 3d22 3 3d43 3 pcw 3 3d7s",
   "3 pdc 3 33a7 3 ded 3 pf6 3 phf 3 dfv 3 pj2 3 hx1 3 3dlz 3 3dmd 3 33bn 3 33bw 3 poh 3 pok 3 sda",
   "3 dij 3 psh 3 psb 3 pst 3 gc3 3 ptd 3 ptf 3 ptp 3 puu 3 3ebg 3 put 3 pwd 3 pyb 3 q0d 3 pwj 3",
   "q0t 3 q1z 3 q53 3 pxv 3 q16 3 q18 3 q1o 3 3eie 3 3eqz 3 3emt 3 dnv 3 q9d 3 q9f 3 qae 3 3g0a 3",
   "qck 3 3f3g 3 dp9 3 dpd 3 3f75 3 3ff6 3 dpn 3 qj4 3 qjg 3 qjr 3 qjt 3 qll 3 qko 3 qoe 3 qn6 3",
   "qrd 3 qp4 3 qqz 3 qrq 3 dsn 3 qu9 3 qv5 3 dtl 3 qxs 3 qxv 3 3giv 3 r13 3 r1a 3 dv9 3 r22 3 aez",
   "3 3gz2 3 3h46 3 dz2 3 dzb 3 rds 3 rfx 3 rka 3 rpx 3 3hrc 3 rsb 3 rsx 3 rvf 3 rxz 3 3i9b 3 2upw",
   "3 s0b 3 rzw 3 s1c 3 2uvy 3 s7o 3 sag 3 3jki 3 3jl9 3 sk4 3 smp 3 snl 3 3ju6 3 snv 3 svs 3 t07",
   "3 t08 3 sxo 3 t89 3 t91 3 3ksa 3 tjf 3 ej9 3 tkn 3 3l2v 3 eli 3 ts3 3 iia 3 tur 3 3ltx 3 3lzu",
   "3 epa 3 epi 3 u00 3 3mdm 3 er6 3 3mhi 3 u17 3 u17 3 u21 3 3mpi 3 u76 3 eur 3 u95 3 ucn 3 ude 3",
   "uf2 3 ez2 3 3nsg 3 umq 3 uv4 3 v0d 3 f66 3 f71 3 v3b 3 3owe 3 f7c 3 3oxx 3 3p5a 3 3p8x 3 vcr 3",
   "f9y 3 veh 3 vem 3 vet 3 vf3 3 vfa 3 vgb 3 3pxc"]

/-- A run of `n` code points of combining class `k` is the number `256 * n + k`. -/
def combiningRuns : List String :=
  ["47pc 4bq dk yk dk d4 15o ju yk ju 2cc zl yk 1ra ds di rg rq kc 74 rq yk di dk kc di dl kq dl",
   "kq dl 2qu 1ibk 15y 1gcg d8 yu d8 rq da d8 1d2 1cs km d8 km da dg di 7e 7f 7g 7h 7i 7j 7k 7l 7m",
   "er 7o 7p 7q 74 7r 74 7s 7t 74 di d8 74 7m e80 1ra 7y 7z 80 9hc 7v 7w 7x 7y 7z 80 81 82 km kc",
   "15y d8 km d8 35s 83 jy8 1k6 e8 yu d8 di e8 km 74 d8 km d8 6ww 84 5xc di d8 km d8 km rg di kc",
   "di d8 rq d8 di d8 di d8 di d8 km vls 1k6 d8 di 1s0 d8 4qo yu 74 1ye 74 rq 74 15y 8hs rg buo di",
   "rg yu 8ao 15y 15o 2xy 74 d8 km d8 km d8 rq rg 7v 7w 7x rq d8 km kc 15y buo 7b 35s 7d lc di d8",
   "km kcg 7b 35s 7d 9hc di c1s 7b 35s 7d lq8 7b 35s 7d lq8 7b 35s 7d p34 7d lq8 7b 35s 7d 1ds 9g",
   "9n jy8 7b 35s 7d lj4 eh 35s 7d ohs 7d lj4 h3 7d 2kg vf lc0 hi 7d 2kg vu f0g kc 5c0 d8 74 d8 74",
   "d4 av4 ap aq 74 as zk w2 e8 aq 74 km 7d 74 km c8w d8 m4g 7b 74 eh g74 d8 3y0w rq 579c eh 5xc",
   "7d v0g 7d 1z4 di 143k dg s8w da di d8 179c di d8 e0w 7d 3y8 1ra e8 d8 9hc 15y 1cs km d8 74 kc",
   "km kc 15y d8 yu jy8 7b 2yo 7d 7i8 di d8 1k6 ao0 eh bgg 7b 268 eh d8g 7b u0w rq 74 75 15o km yk",
   "di 74 1dt sg d8 16o di lc km 1340 km d8 1k6 d8 km dm d2 d8 cq 7hi dk kk d8 d6 di dl d8 di d8",
   "3y80 km e9 yu ld km sg di lc e9 di d8 di e9 yk di guf4 rq ruo 7d iyo 6hy 31fk d6 dg dk da kg",
   "kqo eg 4libk di sg 25i 6bk km fsw km 1iio 7d 7b4 7d tts 7d 5c0 3qe b9c rg 7b4 7d irk 7b 2dc 7d",
   "1b7k di 74 km d8 e8 km zk km 74 di a9s 7d 1clc 7d 338cg 7u 47wg 1k6 1jw km 5c74 d8 18n4 d8 tfk",
   "15y 988w d8 74 di 7wg di 75 d8 sg 7d wlc di d8 356o yu 24g0 km u80 kc rq d8 di yk 9og di d8 di",
   "d8 11xc 7d 83k 7d 2rk 7d b9c 7d 7b dmo rq 9hc eh c8w 7b f0g 7d 1s0 7b kxs 7d 7b z5s 7b 7d fsw",
   "ef 35s 7d 4qo 1k6 lc 15y 14hs 7d lc 7b 4jk di jk0 7d 7b 1dkw 7d 7b ow0 7d nb4 7d 7b mps 7d",
   "1h4w 7d 7b 1eyo eh sg 7b utc 7d ge8 7d 3k0 7d g00 7d 2b5s 7d 1eyo 7b 74 eh g00 7d 30n40 zl bnk",
   "1k6 6mtc ee 2zp4w 75 t6gw k8 ld lc de 15k 1kw 1r0 e8 15y kc 5xc yu t8g rq jabk 1k6 74 3ja e8",
   "1k6 74 km 74 15y 1fk0 1k6 222o di c1s yu 8934 1jw lj4 1d2 7b 46pszk"]

end Gatehouse.Unicode
