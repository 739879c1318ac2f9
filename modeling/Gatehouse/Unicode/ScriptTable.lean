/-!
# Packed scripts

The script of every code point, for the scripts that patterns may name, as runs.
Numbers are written in
base 36 with blanks between them.
-/

namespace Gatehouse.Unicode

/-- A run of `n` code points of the `k`-th script is the number `17 * n + k`; script 0 is none of
the named ones. -/
def scriptRuns : List String :=
  ["up cb 2u cb m7 i 73 i 2d aw h eo h 5w2 if 2e 1tn 1y h 1h y 1y h j 1w j h j h 1h h j h 9i h tt",
   "6m 7m 1py 3b 26h h i2 y nq 1w l h q4 3s cw 1w 2z 57 30 y n 1w 6s h 1l h fa h et 4q 1ih h 8o 4q",
   "30 11s mu 35c et h 14 2u 1da 1on 24 h 40 y 16 y am h 3j h p 1f 24 y 4h y 16 y 24 3s p 1w 16 h",
   "2l y c1 52r 1d h 39 1f 1u h 2b 1f 1d h w h 1d 1f 1d 1f 1u 1f 63 1w 2s 1f 1u h 2b y w 2u w 6m",
   "ac 6sm rn 1w dy 7lw i8 h r 2d r y l2 h 1p 3d7 yx h 2c y 3r h x h 2c y jt h 2c y g1 h 2c y 3r h",
   "x h 2c y 7j h rd h 2c y w3 y fk 1f cq tvq 4c 3b kl y 1p u8 hz 2f k n6 2f 1x 2f 66 h x3 j u8",
   "3cx ag y 2w y i0 y 2w y 3u h j h j h j h ep y p3 h 75 h 6o y 2w h 91 y 1h h 4b 1hu i 65 i 7k",
   "66 1sp j 1f z 2u i cr i 81 je iqc i hnm dq h z 1og i8 h r 2d r 12q bb 49 3r h 3r h 3r h 3r h",
   "3r h 3r h 3r h 3r 241 co h 16f 5o 2tg m7 v h v bt 4n 1w 19 3s 2a 2d 14y 2u 1r h 16v y 1s n5",
   "18p 19t 7x 2q8 mk h 15x 27c 2eha u8 7nda kzk ma 73 e9 1ra 10v h aw 1f u9 2d z h i h 2e cr 1g y",
   "2v 36a 6t 19c e0 538 3a y 3a y 3a 49 3r h 3r h kc 2d 2e j 1g 1zb 42jz 5o b6 1w ng 32v8 4t8 y",
   "1eg hy 3c 5o 2h 2d cf h 2i h m h 13 h 13 h 4v 1ih 7k 4rl y 11y y po 3b n f4 5u h 1l 1gw 2j h",
   "1rx h0 cb 2u cb 57 53 h lm y ey 1f 35 y 35 y 35 y 1q 4nn 11d 81 j 2t5b o1 65 w 7g8y 1c 5o 3p",
   "5ytl 29 h 3o h 1b h u 3rv 1s 73 t dp 1r y u 6m 29 31g8 x4 16qi eo te9 3r h 2c h 1e h 7j k5t 22",
   "h cx h 14 h n y n h 4w h 22 h n h n 2u n 1w n h n h n h 1l h 14 h n y n h n h n h n h n h 14 h",
   "n y 22 h 3h h 22 h 22 h n h 4w h 87 2d 1l h 2j h 87 ok 14 a9a t 1azz fkdq f4 1lho y 23r0 y",
   "2q1b 73 864 wci 74c jr6 1ssp 2d 33dk 95exy"]

end Gatehouse.Unicode
