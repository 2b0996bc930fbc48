import DocQuery.Unicode.Ranges
/-! Letters that differ only in case, one for one. -/

namespace DocQuery.Unicode

/-- Groups of code points that fold together: the members of a group with commas between them, or
the two members of a first group, the number of groups and the step from group to group. -/
def foldText : String :=
   "41:61:a:1 4b,6b,212a 4c:6c:7:1 53,73,17f 54:74:7:1 b5,39c,3bc c0:e0:5:1 c5,e5,212b
    c6:e6:11:1 d8:f8:7:1 df,1e9e ff,178 100:101:18:2 132:133:3:2 139:13a:8:2 14a:14b:17:2
    179:17a:3:2 180,243 181,253 182,183 184,185 186,254 187,188 189,256 18a,257 18b,18c 18e,1dd
    18f,259 190,25b 191,192 193,260 194,263 195,1f6 196,269 197,268 198,199 19a,23d 19b,a7dc
    19c,26f 19d,272 19e,220 19f,275 1a0:1a1:3:2 1a6,280 1a7,1a8 1a9,283 1ac,1ad 1ae,288 1af,1b0
    1b1,28a 1b2,28b 1b3,1b4 1b5,1b6 1b7,292 1b8,1b9 1bc,1bd 1bf,1f7 1c4,1c5,1c6 1c7,1c8,1c9
    1ca,1cb,1cc 1cd:1ce:8:2 1de:1df:9:2 1f1,1f2,1f3 1f4,1f5 1f8:1f9:14:2 222:223:9:2 23a,2c65
    23b,23c 23e,2c66 23f,2c7e 240,2c7f 241,242 244,289 245,28c 246:247:5:2 250,2c6f 251,2c6d
    252,2c70 25c,a7ab 261,a7ac 264,a7cb 265,a78d 266,a7aa 26a,a7ae 26b,2c62 26c,a7ad 271,2c6e
    27d,2c64 282,a7c5 287,a7b1 29d,a7b2 29e,a7b0 345,399,3b9,1fbe 370,371 372,373 376,377
    37b:3fd:3:1 37f,3f3 386,3ac 388:3ad:3:1 38c,3cc 38e,3cd 38f,3ce 390,1fd3 391,3b1 392,3b2,3d0
    393,3b3 394,3b4 395,3b5,3f5 396,3b6 397,3b7 398,3b8,3d1,3f4 39a,3ba,3f0 39b,3bb 39d:3bd:3:1
    3a0,3c0,3d6 3a1,3c1,3f1 3a3,3c2,3c3 3a4,3c4 3a5,3c5 3a6,3c6,3d5 3a7,3c7 3a8,3c8 3a9,3c9,2126
    3aa,3ca 3ab,3cb 3b0,1fe3 3cf,3d7 3d8:3d9:c:2 3f2,3f9 3f7,3f8 3fa,3fb 400:450:10:1 410,430
    411,431 412,432,1c80 413,433 414,434,1c81 415:435:9:1 41e,43e,1c82 41f,43f 420,440
    421,441,1c83 422,442,1c84,1c85 423:443:7:1 42a,44a,1c86 42b:44b:5:1 460,461 462,463,1c87
    464:465:f:2 48a:48b:1b:2 4c0,4cf 4c1:4c2:7:2 4d0:4d1:30:2 531:561:26:1 10a0:2d00:26:1
    10c7,2d27 10cd,2d2d 10d0:1c90:2b:1 10fd:1cbd:3:1 13a0:ab70:50:1 13f0:13f8:6:1 1c88,a64a,a64b
    1c89,1c8a 1d79,a77d 1d7d,2c63 1d8e,a7c6 1e00:1e01:30:2 1e60,1e61,1e9b 1e62:1e63:1a:2
    1ea0:1ea1:30:2 1f00:1f08:8:1 1f10:1f18:6:1 1f20:1f28:8:1 1f30:1f38:8:1 1f40:1f48:6:1
    1f51:1f59:4:2 1f60:1f68:8:1 1f70,1fba 1f71,1fbb 1f72:1fc8:4:1 1f76,1fda 1f77,1fdb 1f78,1ff8
    1f79,1ff9 1f7a,1fea 1f7b,1feb 1f7c,1ffa 1f7d,1ffb 1f80:1f88:8:1 1f90:1f98:8:1 1fa0:1fa8:8:1
    1fb0,1fb8 1fb1,1fb9 1fb3,1fbc 1fc3,1fcc 1fd0,1fd8 1fd1,1fd9 1fe0,1fe8 1fe1,1fe9 1fe5,1fec
    1ff3,1ffc 2132,214e 2160:2170:10:1 2183,2184 24b6:24d0:1a:1 2c00:2c30:30:1 2c60,2c61
    2c67:2c68:3:2 2c72,2c73 2c75,2c76 2c80:2c81:32:2 2ceb,2cec 2ced,2cee 2cf2,2cf3 a640:a641:5:2
    a64c:a64d:11:2 a680:a681:e:2 a722:a723:7:2 a732:a733:1f:2 a779,a77a a77b,a77c a77e:a77f:5:2
    a78b,a78c a790,a791 a792,a793 a794,a7c4 a796:a797:a:2 a7b3,ab53 a7b4:a7b5:8:2 a7c7,a7c8
    a7c9,a7ca a7cc,a7cd a7d0,a7d1 a7d6:a7d7:3:2 a7f5,a7f6 fb05,fb06 ff21:ff41:1a:1
    10400:10428:28:1 104b0:104d8:24:1 10570:10597:b:1 1057c:105a3:f:1 1058c:105b3:7:1 10594,105bb
    10595,105bc 10c80:10cc0:33:1 10d50:10d70:16:1 118a0:118c0:20:1 16e40:16e60:20:1
    1e900:1e922:22:1"

/-- Value of hexadecimal digits. -/
def pointOf (digits : String) : Nat := Ranges.hexValue digits.toList

/-- The groups of an entry. -/
def readFolds (entry : String) : List (List Nat) :=
  match entry.splitOn ":" with
  | [first, second, count, step] =>
    (List.range (pointOf count)).map fun i =>
      [pointOf first + i * pointOf step, pointOf second + i * pointOf step]
  | _ => [(entry.splitOn ",").map pointOf]

/-- The groups of code points that fold together. -/
def folds : List (List Nat) := (words foldText).flatMap readFolds

/-- The set with all code points that fold together with one of its own. -/
def Ranges.closeFolds (r : Ranges) : Ranges :=
  let added := folds.flatMap fun g => if g.any r.contains then g else []
  if added.isEmpty then r else .ofBounds (r.bounds.toList ++ added.map fun n => (n, n))

end DocQuery.Unicode
