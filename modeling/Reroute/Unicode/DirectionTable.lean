/-!
# Table of directions

One word for each stretch of characters from U+0000 on: the letter of its class of direction and
its hexadecimal length.
-/

namespace Reroute.Unicode

/-- The classes of direction: `L`, `R` and `A` letters, `E` and `N` digits, `S`, `T` and `C`
signs beside digits, `M` marks, `B` and `O` neutral characters, `X` all else. -/
def directionText : String := "
  B9 X5 Be X5 O2 T3 O5 S1 C1 S1 C2 Ea C1 O6 L1a O6 L1a O4 B6 X1 B1a C1 O1 T4 O4 L1 O2 B1 O2 T2
  E2 O1 L1 O3 E1 L1 O5 L17 O1 L1f O1 L1c1 O2 L7 Oe L2 Oe L5 O9 L1 O11 M70 L4 O2 L8 O1 L5 O2 L1
  O1 L6e O1 L8c M7 L100 O1 L2 O2 T1 R1 M2d R1 M1 R1 M2 R1 M2 R1 M1 R38 N6 O2 A1 T2 A1 C1 A1 O2
  Mb A30 M15 Na T1 N2 A3 M1 A65 M7 N1 O1 M6 A2 M2 O1 M4 A2 Ea A17 M1 A1e M1b A5b Mb Af R2b M9 R2
  O4 R3 M1 R18 M4 R1 M9 R1 M3 R1 M5 R2b M3 R4 A30 N2 A5 M9 A2a M18 N1 M20 L37 M1 L1 M1 L4 M8 L4
  M1 L3 M7 La M2 L1d M1 L3a M1 L4 M4 L8 M1 L14 M2 Le T2 L7 T1 L2 M1 L2 M2 L39 M1 L4 M2 L4 M2 L2
  M3 L3 M1 L1e M2 L3 M1 Lb M2 L39 M1 L4 M5 L1 M2 L4 M1 L14 M2 Ld T1 L8 M6 L1 M1 L3a M1 L2 M1 L1
  M4 L8 M1 L7 M2 Lb M2 L1e M1 L3d M1 Lc M1 L25 O6 T1 O1 L5 M1 L3 M1 L37 M1 L1 M3 L5 M3 L1 M4 L7
  M2 Lb M2 L14 O7 L2 M1 L3a M1 Lf M2 L14 M2 L1c M2 L39 M2 L4 M4 L8 M1 L14 M2 L1d M1 L48 M1 L7 M3
  L1 M1 L5a M1 L2 M7 L4 T1 L7 M8 L62 M1 L2 M9 Lb M7 L49 M2 L1b M1 L1 M1 L1 M1 O4 L33 Me L1 M5 L1
  M2 L5 Mb L1 M24 L9 M1 L66 M4 L1 M6 L1 M2 L2 M2 L19 M2 L4 M3 L10 M4 Ld M1 L2 M2 L6 M1 Lf M1
  L2bf M3 L30 Oa L66 O1 L27f X1 L1a O2 L75 M3 L1d M2 L1e M2 L1e M2 L40 M2 L1 M7 L8 M1 L2 Mb L7
  T1 L1 M1 L12 Oa L6 Ob M3 B1 M1 L75 M2 L22 M1 L76 M3 L4 M2 L9 M1 L6 M3 L4 O1 L3 O2 L98 O22 L17
  M2 L2 M1 L3a M1 L1 M7 L1 M1 L1 M1 L2 M8 L6 Ma L2 M1 L30 M2e L2 Mc L14 M4 L30 M1 L1 M5 L1 M1 L5
  M1 L28 M9 Lc M2 L20 M4 L2 M2 L1 M3 L38 M1 L1 M2 L3 M1 L1 M3 L3a M8 L2 M2 L98 M3 L1 Md L1 M7 L4
  M1 L6 M1 L3 M2 Lc6 M40 L1bd O1 L1 O3 Lb O3 Ld O3 Ld O3 Ld O2 L1 Xb B3 L1 R1 O18 X7 C1 T5 Of C1
  O1a X1 B6 X4 B6 E1 L3 E6 S2 O3 L1 Ea S2 O3 L11 T30 M21 Lf O2 L1 O4 L1 O2 La O1 L1 O3 L5 O6 L1
  O1 L1 O1 L1 O1 L4 T1 Lb O2 L4 O5 L5 O4 L2 O10 L29 O3 L4 O82 S1 T1 O122 L45 O1a L1 O94 L16 Ob
  L15 O28 E14 L4e O1c2 L1 O153 L100 O274 L2 O8a Le5 O6 L4 M3 L7 O7 L7f M1 L60 M20 O5e L22 O1a L1
  O59 Lc Od6 L1a O10 X1 O4 L3 O19 L9 M4 L2 O1 L5 O2 L5 O3 L59 M2 O2 L3 O1 L5a O1 Lc4 O26 L9 O1
  L2d O2 L31 O10 L1c O3 L32 Of Lc O4 La7 O4 L63 O2 L1f O1 L19c0 O40 L5690 O37 L146 O3 L5f M4 O1
  Ma O2 L1e M2 L50 M2 Le O22 L66 O1 L79 M1 L3 M1 L4 M1 L19 M2 L1 O4 M1 Lb T2 L3a O4 L4c M2 L1a
  M12 Ld M1 L26 M8 L19 Mb L2e M3 L30 M1 L2 M4 L2 M2 L27 M1 L43 M6 L2 M2 L2 M2 Lc M1 L8 M1 L2f M1
  L33 M1 L1 M3 L2 M2 L5 M2 L1 M1 L2a M2 L8 M1 L73 O2 L79 M1 L2 M1 L4 M1 L4f2f R1 M1 Ra S1 R26
  A1ee O12 A7f O1 B20 Ad O3 M10 Oa L6 M10 O20 C1 O1 C1 L1 O1 C1 O9 T1 O2 S2 O3 L1 O1 T2 O1 L4
  A8f B1 L1 O2 T3 O5 S1 C1 S1 C2 Ea C1 O6 L1a O6 L1a Ob L7a T2 O3 T2 L1 O7 L1 B9 O5 B2 L101 O1
  L3e O4d L3 Od L3 O1 L5c M1 Le2 M1 E1b L7a M5 L485 R11f O1 Re1 M3 R1 M2 R5 M4 R28 M3 R4 M1 Ra5
  M2 R52 O7 R1c0 A24 M4 A8 Na A6 R29 M5 Rf2 N1f R2c M2 R13 A3a M6 R30 A16 Mb A1f R12 M4 R7a L1
  M1 L36 Mf Lb O14 La M1 L2 M2 La M3 L31 M4 L2 M2 L7 M1 L3d M3 L24 M5 L1 M8 L3e M1 Lc M2 L34 M9
  La M4 L2 M1 L5f M3 L2 M1 L1 M2 L6 M1 L2 M1 L9d M1 L3 M8 L15 M2 L39 M2 L3 M1 L25 M7 L3 M5 L46
  M6 Ld M1 L1 M1 L1 M1 Le M2 L55 M8 L2 M3 L1 M1 L17 M1 L54 M6 L1 M1 L4 M2 L1 M2 Lee M4 L6 M2 L1
  M2 L1b M2 L55 M8 L2 M1 L1 M2 L1f Od L3e M1 L1 M1 L2 M6 L1 M1 L65 M1 L1 M1 L2 M4 L1 M5 L103 M9
  L1 M2 L100 M2 L1 M1 L4 M1 L90 M4 L2 M2 L4 M1 L20 M6 L2 M2 L28 M6 L2 M4 L8 M1 L9 M6 L2 M3 L2e
  Md L1 M2 Lc6 M1 L1 M3 L1 M1 Lc9 M7 L1 M6 L54 M16 L2 M7 L1 M2 L1 M2 L7a M6 L3 M1 L1 M2 L1 M7 L1
  M1 L48 M2 L3 M1 L1 M1 L15b M2 Lb M2 L34 M5 L5 M1 L1 M1 L17 M1 L7a O8 T4 O11 L144e M1 L6 Mf
  L2cc8 Mc L3 M3 L9c0 M5 L3b M7 L418 M1 L3f M4 L4f O1 L1 M1 L4cb8 M2 L1 B4 Lf5c Of0 La O3 L3
  O1b4 L6 O17 Lf O11 Lf M2e L2 M17 L220 M3 L9 B8 M8 L2 M7 L1e M4 L3b O2 L15 O42 M3 O1 Lba O57
  L384 O1 L39 O1 L39 O1 L39 O1 L39 O1 La E32 L200 M37 L4 M32 L8 M1 Le M1 L16 M5 L1 Mf L550 M7 L1
  M11 L2 M7 L1 M2 L1 M5 L64 M1 La0 M7 L177 M1 L3d M4 Lf T1 L1ec M4 Lfe M2 Lf3 M1 L2 M1 L7 M2 L5
  M1 L10a Rd0 M7 R6d M7 R325 A50 R40 A50 Rb0 Af0 O2 Ae R100 O2c L4 O64 Lc Of L2 Of L1 Of L1 O25
  La Eb O5 L1f O1 L3a O6 L3d O1 Lb2 O6 L9a O3d9 L3 O11 L3 Od L3 Oda L6 Oc L4 O1 Lf Oc L4 O38 L8
  Oa L6 O28 L8 O1e L2 Oc L4 O2 Le O9 L27 O158 L8 Oe L2 Od L3 Ob L3 O39 L1 O1 L4 O10 L2 Oc L4 Oa
  L7 O93 L1 O5c Ea O1 L403 B2 Lfffe B2 Lfffe B2 Lfffe B2 Lfffe B2 Lfffe B2 Lfffe B2 Lfffe B2
  Lfffe B2 Lfffe B2 Lfffe B2 Lfffe B2 Lfffe B102 Mf0 Be10 Leffe B2 Lfffe B2 Lfffe B2"

end Reroute.Unicode
