/-!
# Tables of marks and of joining letters

One word for each stretch of characters from U+0000 on: a letter and the hexadecimal length.
-/

namespace Reroute.Unicode

/-- `M` for combining marks, `O` for other characters. -/
def markText : String := "
  O300 M70 O113 M7 O107 M2d O1 M1 O1 M2 O1 M2 O1 M1 O48 Mb O30 M15 O10 M1 O65 M7 O2 M6 O2 M2 O1
  M4 O23 M1 O1e M1b O5b Mb O3a M9 O9 M1 O18 M4 O1 M9 O1 M3 O1 M5 O2b M3 O3b M9 O2a M18 O1 M21
  O36 M3 O1 M12 O1 M7 Oa M2 O1d M3 O38 M1 O1 M7 O2 M2 O2 M3 O9 M1 Oa M2 O1a M1 O2 M3 O38 M1 O1
  M5 O4 M2 O2 M3 O3 M1 O1e M2 O3 M1 Ob M3 O38 M1 O1 M8 O1 M3 O1 M3 O14 M2 O16 M6 O1 M3 O38 M1 O1
  M7 O2 M2 O2 M3 O7 M3 Oa M2 O1e M1 O3b M5 O3 M3 O1 M4 O9 M1 O28 M5 O37 M1 O1 M7 O1 M3 O1 M4 O7
  M2 Ob M2 O1d M3 O38 M1 O1 M7 O1 M3 O1 M4 O7 M2 Ob M2 Of M1 Oc M4 O37 M2 O1 M7 O1 M3 O1 M4 O9
  M1 Oa M2 O1d M3 O46 M1 O4 M6 O1 M1 O1 M8 O12 M2 O3d M1 O2 M7 Oc M8 O62 M1 O2 M9 Ob M7 O49 M2
  O1b M1 O1 M1 O1 M1 O4 M2 O31 M14 O1 M2 O5 Mb O1 M24 O9 M1 O64 M14 O17 M4 O4 M3 O1 M3 O2 M7 O3
  M4 Od Mc O1 M1 Oa M4 O2bf M3 O3b2 M4 O1c M3 O1d M2 O1e M2 O40 M20 O9 M1 O2d M3 O1 M1 O75 M2
  O22 M1 O76 Mc O4 Mc Odb M5 O39 Ma O1 M1d O2 M1 O30 M2e O2 Mc O14 M5 O2f M11 O26 M9 Oc M3 O1e
  Md O38 Me O30 M14 O98 M3 O1 M15 O4 M1 O6 M1 O2 M3 Oc6 M40 O2d0 M21 Obfe M3 O8d M1 O60 M20 O22a
  M6 O69 M2 O75d4 M4 O1 Ma O20 M2 O50 M2 O110 M1 O3 M1 O4 M1 O17 M5 O4 M1 O53 M2 O32 M12 O1a M12
  Od M1 O26 M8 O19 Md O2c M4 O2f Me O24 M1 O43 Me Oc M1 O8 M2 O2d M3 O32 M1 O1 M3 O2 M2 O5 M2 O1
  M1 O29 M5 O5 M2 Oec M8 O1 M2 O4f30 M1 O2e1 M10 O10 M10 O3cd M1 Oe2 M1 O95 M5 O686 M3 O1 M2 O5
  M4 O28 M3 O4 M1 Oa5 M2 O23d M4 O41 M5 O13d M2 O4d M6 O46 Mb O31 M4 O7a M3 O35 Mf O29 M1 O2 M2
  Oa M4 O2d Mb O7 M1 O3d M3 O24 Me O10 M2 O2c M1 Oc M3 O30 Me O8 M4 O1 M2 O5c Mc O6 M1 O2 M1 O9d
  Mc O15 M4 O37 M2 O1 M7 O2 M2 O2 M3 O9 M1 Oa M2 O2 M7 O3 M5 O43 M9 O1 M1 O2 M1 O1 M4 O1 M5 O1
  M1 Oe M2 O52 M12 O17 M1 O51 M14 Oeb M7 O2 M9 O1b M2 O52 M11 O6a Md O65 Mf O100 Mf Of5 M6 O1 M2
  O2 M4 O1 M1 O1 M2 O8d M7 O2 M7 O3 M1 O1c Ma O28 M7 O1 M4 O8 M1 O9 Mb O2e M10 Oc6 M8 Oc7 M8 O1
  M8 O52 M16 O1 Me O7a M6 O3 M1 O1 M2 O1 M7 O1 M1 O42 M5 O1 M2 O1 M5 O15b M4 O9 M2 O1 M1 O30 M7
  O3 M5 O17 M1 O14e5 M1 O6 Mf O2cc8 M12 O9c0 M5 O3b M7 O418 M1 O1 M37 O7 M4 O51 M1 Ob M2 O4cab
  M2 O1261 M2e O2 M17 O21e M5 O3 M6 O8 M8 O2 M7 O1e M4 O94 M3 O7bb M37 O4 M32 O8 M1 Oe M1 O16 M5
  O1 Mf O550 M7 O1 M11 O2 M7 O1 M2 O1 M5 O64 M1 Oa0 M7 O177 M1 O3d M4 O1fc M4 Ofe M2 Of3 M1 O2
  M1 O7 M2 O5 M1 O1da M7 O6d M7 Oc17b5 Mf0 O2fe10"

/-- How letters join their neighbours: `L` to the left, `R` to the right, `D` to both sides, `T`
seen through, `U` not at all. -/
def joiningText : String := "
  Uad T1 U252 T70 U113 T7 U107 T2d U1 T1 U1 T2 U1 T2 U1 T1 U48 Tb U1 T1 U3 D1 U1 R4 D1 R1 D1 R1
  D5 R4 Dd U1 D7 R1 D2 T15 Ue D2 T1 R3 U1 R3 D10 R12 D26 R1 D2 R9 D1 R1 D1 R1 D2 R2 U1 R1 T7 U2
  T6 U2 T2 U1 T4 R2 Ua D3 U2 D1 Uf T1 R1 T1 D3 R5 D4 R1 D9 R1 D1 R1 D1 R1 D2 R1 T1b U2 R1 Db R3
  Df R2 D4 R1 D1 R2 D3 R2 D6 U26 Tb U19 D21 T9 U9 T1 U18 T4 U1 T9 U1 T3 U1 T5 U12 R1 D5 R2 D1 R1
  Da R1 D1 R3 T3 U4 D1 U1 D4 U1 R1 D1 R2 U5 R13 U3 D1 U2 D5 R1 D1 U7 T9 Da R3 U1 R1 D2 R2 D6 R1
  Df U1 T18 U1 T20 U37 T1 U1 T1 U4 T8 U4 T1 U3 T7 Ua T2 U1d T1 U3a T1 U4 T4 U8 T1 U14 T2 U1a T1
  U2 T2 U39 T1 U4 T2 U4 T2 U2 T3 U3 T1 U1e T2 U3 T1 Ub T2 U39 T1 U4 T5 U1 T2 U4 T1 U14 T2 U16 T6
  U1 T1 U3a T1 U2 T1 U1 T4 U8 T1 U7 T2 Ub T2 U1e T1 U3d T1 Uc T1 U32 T1 U3 T1 U37 T1 U1 T3 U5 T3
  U1 T4 U7 T2 Ub T2 U1d T1 U3a T1 U2 T1 U6 T1 U5 T2 U14 T2 U1c T2 U39 T2 U4 T4 U8 T1 U14 T2 U1d
  T1 U48 T1 U7 T3 U1 T1 U5a T1 U2 T7 Uc T8 U62 T1 U2 T9 Ub T7 U49 T2 U1b T1 U1 T1 U1 T1 U37 Te
  U1 T5 U1 T2 U5 Tb U1 T24 U9 T1 U66 T4 U1 T6 U1 T2 U2 T2 U19 T2 U4 T3 U10 T4 Ud T1 U2 T2 U6 T1
  Uf T1 U2bf T3 U3b2 T3 U1d T2 U1e T2 U1e T2 U40 T2 U1 T7 U8 T1 U2 Tb U9 T1 U29 D1 U3 T3 U1 T1
  U10 D59 Uc T2 D22 T1 D1 U75 T3 U4 T2 U9 T1 U6 T3 Udb T2 U2 T1 U3a T1 U1 T7 U1 T1 U1 T1 U2 T8
  U6 Ta U2 T1 U30 T2e U2 Tc U14 T4 U30 T1 U1 T5 U1 T1 U5 T1 U28 T9 Uc T2 U20 T4 U2 T2 U1 T3 U38
  T1 U1 T2 U3 T1 U1 T3 U3a T8 U2 T2 U98 T3 U1 Td U1 T7 U4 T1 U6 T1 U3 T2 Uc6 T40 U20b T1 U2 T2
  U1a T5 U31 T5 U5 T6 U60 T21 Ubfe T3 U8d T1 U60 T20 U22a T4 U6b T2 U75d4 T4 U1 Ta U20 T2 U50 T2
  U110 T1 U3 T1 U4 T1 U19 T2 U5 T1 U13 D32 L1 U51 T2 U1a T12 Ud T1 U26 T8 U19 Tb U2e T3 U30 T1
  U2 T4 U2 T2 U27 T1 U43 T6 U2 T2 U2 T2 Uc T1 U8 T1 U2f T1 U33 T1 U1 T3 U2 T2 U5 T2 U1 T1 U2a T2
  U8 T1 Uee T1 U2 T1 U4 T1 U4f30 T1 U2e1 T10 U10 T10 Ucf T1 Uf9 T3 U201 T1 Ue2 T1 U95 T5 U686 T3
  U1 T2 U5 T4 U28 T3 U4 T1 U80 D5 R1 U1 R1 U1 R2 U2 L1 R5 D4 L1 D5 R1 D3 R1 U2 R1 T2 U4 D4 R1
  U90 D1 R1 D1 R3 D3 R1 D2 R1 D1 R2 D1 R1 U17 R4 D2 U151 L1 D21 R1 D1 T4 U41 T5 U13d T2 U15 R1
  D2 U1 D2 U32 T6 U30 D3 R1 D11 U1 Tb D3 R1 U1b D4 R2 Dc T4 U2a D1 U1 D2 R3 U1 D1 R2 D2 R1 D2 U1
  D1 R2 D1 U4 R1 D1 L1 U35 T1 U36 Tf U29 T1 U2 T2 Ua T3 U31 T4 U2 T2 U7 T1 U3d T3 U24 T5 U1 T8
  U3e T1 Uc T2 U34 T9 Ua T4 U2 T1 U5f T3 U2 T1 U1 T2 U6 T1 U2 T1 U9d T1 U3 T8 U15 T2 U39 T2 U3
  T1 U25 T7 U3 T5 U46 T6 Ud T1 U1 T1 U1 T1 Ue T2 U55 T8 U2 T3 U1 T1 U17 T1 U54 T6 U1 T1 U4 T2 U1
  T2 Uee T4 U6 T2 U1 T2 U1b T2 U55 T8 U2 T1 U1 T2 U6a T1 U1 T1 U2 T6 U1 T1 U65 T1 U1 T1 U2 T4 U1
  T5 U103 T9 U1 T2 U100 T2 U1 T1 U4 T1 U90 T4 U2 T2 U4 T1 U20 Ta U28 T6 U2 T4 U8 T1 U9 T6 U2 T3
  U2e Td U1 T2 Uc6 T1 U1 T3 U1 T1 Uc9 T7 U1 T6 U1 T1 U52 T16 U2 T7 U1 T2 U1 T2 U7a T6 U3 T1 U1
  T2 U1 T7 U1 T1 U48 T2 U3 T1 U1 T1 U15b T2 Ub T2 U34 T5 U5 T1 U1 T1 U17 T1 U14d5 T11 U6 Tf
  U2cc8 Tc U3 T3 U9c0 T5 U3b T7 U418 T1 U3f T4 U51 T1 U4cb8 T2 U1 T4 U125c T2e U2 T17 U220 T3 U9
  T10 U2 T7 U1e T4 U94 T3 U7bb T37 U4 T32 U8 T1 Ue T1 U16 T5 U1 Tf U550 T7 U1 T11 U2 T7 U1 T2 U1
  T5 U64 T1 Ua0 T7 U177 T1 U3d T4 U1fc T4 Ufe T2 Uf3 T1 U2 T1 U7 T2 U5 T1 U1da T7 U29 D44 T8
  Uc16b5 T1 U1e T60 U80 Tf0 U2fe10"

end Reroute.Unicode
