import AgentSandbox.Text.Mark

/-!
# The direction of writing

`direction` says how a character bears on the direction in which a line is written: some letters
are written from left to right and some from right to left, digits and signs follow what is around
them, and marks go with the character before them.  The table is that of Unicode 17.
-/

namespace AgentSandbox.Text

/-- How a character bears on the direction of a line. -/
inductive Direction where
  | leftToRight
  | rightToLeft
  | arabicLetter
  | europeanDigit
  | arabicDigit
  | sign
  | terminator
  | separator
  | mark
  | boundary
  | neutral
  deriving DecidableEq

namespace Direction

/-- The direction that a letter stands for. -/
def ofLetter : List Char → Direction
  | ['=', 'R'] => rightToLeft
  | ['=', 'A'] => arabicLetter
  | ['=', 'N'] => arabicDigit
  | ['=', 'E'] => europeanDigit
  | ['=', 'P'] => sign
  | ['=', 'T'] => terminator
  | ['=', 'C'] => separator
  | ['=', 'B'] => boundary
  | ['=', 'O'] => neutral
  | _ => leftToRight

/-- Whether a character makes part of a line run from right to left. -/
def turns : Direction → Bool
  | rightToLeft | arabicLetter | arabicDigit => true
  | _ => false

end Direction

/-- The characters beyond ASCII that are not written from left to right, and the marks that are. -/
def directionTable : Table Direction := Table.read Direction.ofLetter "
  A1=O A2-A5=T A6-A9=O AB-AF=O B0-B1=T B2-B3=E B4=O B6-B8=O B9=E BB-BF=O D7=O F7=O 2B9-2BA=O
  2C2-2CF=O 2D2-2DF=O 2E5-2ED=O 2EF-2FF=O 374-375=O 37E=O 384-385=O 387=O 3F6=O 58A-58E=O 58F=T
  5BE=R 5C0=R 5C3=R 5C6=R 5D0-5F4=R 606-607=O 608=A 609-60A=T 60B=A 60C=C 60D=A 60E-60F=O 61B-64A=A
  660-669=N 66A=T 66B-66C=N 66D-66F=A 671-6D5=A 6DE=O 6E5-6E6=A 6E9=O 6EE-6EF=A 6F0-6F9=E 6FA-710=A
  712-72F=A 74D-7A5=A 7B1=A 7C0-7EA=R 7F4-7F5=R 7F6-7F9=O 7FA=R 7FE-815=R 81A=R 824=R 828=R
  830-858=R 85E=R 860-88F=A 8A0-8C9=A 9F2-9F3=T 9FB=T AF1=T BF3-BF8=O BF9=T BFA=O C78-C7E=O CBF=L
  CC6=L E3F=T F3A-F3D=O 1390-1399=O 1400=O 169B-169C=O 17DB=T 17F0-180A=O 1940-1945=O 19DE-19FF=O
  1FBD=O 1FBF-1FC1=O 1FCD-1FCF=O 1FDD-1FDF=O 1FED-1FEF=O 1FFD-1FFE=O 200C-200D=B 2010-2027=O
  2030-2034=T 2035-2043=O 2044=C 2045-205E=O 2070=E 2074-2079=E 207A-207B=P 207C-207E=O 2080-2089=E
  208A-208B=P 208C-208E=O 20A0-20C1=T 2100-2101=O 2103-2106=O 2108-2109=O 2114=O 2116-2118=O
  211E-2123=O 2125=O 2127=O 2129=O 212E=T 213A-213B=O 2140-2144=O 214A-214D=O 2150-215F=O
  2189-2211=O 2212=P 2213=T 2214-2335=O 237B-2394=O 2396-2487=O 2488-249B=E 24EA-26AB=O 26AD-27FF=O
  2900-2BFF=O 2CE5-2CEA=O 2CF9-2CFF=O 2E00-3004=O 3008-3020=O 3030=O 3036-3037=O 303D-303F=O
  309B-309C=O 30A0=O 30FB=O 31C0-31EF=O 321D-321E=O 3250-325F=O 327C-327E=O 32B1-32BF=O 32CC-32CF=O
  3377-337A=O 33DE-33DF=O 33FF=O 4DC0-4DFF=O A490-A4C6=O A60D-A60F=O A673=O A67E-A67F=O A700-A721=O
  A788=O A828-A82B=O A838-A839=T A874-A877=O AB6A-AB6B=O FB1D=R FB1F-FB28=R FB29=P FB2A-FB4F=R
  FB50-FBC2=A FBC3-FBD2=O FBD3-FD3D=A FD3E-FD4F=O FD50-FD8F=A FD90-FD91=O FD92-FDC7=A FDC8-FDCF=O
  FDF0-FDFC=A FDFD-FDFF=O FE10-FE19=O FE30-FE4F=O FE50=C FE51=O FE52=C FE54=O FE55=C FE56-FE5E=O
  FE5F=T FE60-FE61=O FE62-FE63=P FE64-FE68=O FE69-FE6A=T FE6B=O FE70-FEFC=A FF01-FF02=O FF03-FF05=T
  FF06-FF0A=O FF0B=P FF0C=C FF0D=P FF0E-FF0F=C FF10-FF19=E FF1A=C FF1B-FF20=O FF3B-FF40=O
  FF5B-FF65=O FFE0-FFE1=T FFE2-FFE4=O FFE5-FFE6=T FFE8-FFFD=O 10101=O 10140-1018C=O 10190-101A0=O
  102E1-102FB=E 10800-1091B=R 1091F=O 10920-10A00=R 10A10-10A35=R 10A40-10AE4=R 10AEB-10B35=R
  10B39-10B3F=O 10B40-10CFF=R 10D00-10D23=A 10D30-10D49=N 10D4A-10D65=R 10D6E=O 10D6F-10D8F=R
  10E60-10E7E=N 10E80-10EA9=R 10EAD-10EB1=R 10EC2-10EC7=A 10ED0-10ED8=O 10F00-10F27=R 10F30-10F45=A
  10F51-10F59=A 10F70-10F81=R 10F86-10FF6=R 11052-11065=O 11660-1166C=O 11A07-11A08=L 11C3F=L
  11FD5-11FDC=O 11FDD-11FE0=T 11FE1-11FF1=O 16FE2=O 1CC00-1CCD5=O 1CCF0-1CCF9=E 1CCFA-1CEF0=O
  1D1E9-1D241=O 1D245=O 1D300-1D356=O 1D6C1=O 1D6DB=O 1D6FB=O 1D715=O 1D735=O 1D74F=O 1D76F=O
  1D789=O 1D7A9=O 1D7C3=O 1D7CE-1D7FF=E 1E2FF=T 1E800-1E8CF=R 1E900-1E943=R 1E94B-1E95F=R
  1EC71-1EEBB=A 1EEF0-1F0F5=O 1F100-1F10A=E 1F10B-1F10F=O 1F12F=O 1F16A-1F16F=O 1F1AD=O
  1F260-1FBEF=O 1FBF0-1FBF9=E 1FBFA=O"

/-- The direction of a character of ASCII. -/
def asciiDirection (c : Char) : Direction :=
  if c.isAlpha then .leftToRight
  else if c.isDigit then .europeanDigit
  else if c = '+' ∨ c = '-' then .sign
  else if c = '#' ∨ c = '$' ∨ c = '%' then .terminator
  else if c = ',' ∨ c = '.' ∨ c = '/' ∨ c = ':' then .separator
  else .neutral

/-- The direction of a character. -/
def direction (c : Char) : Direction :=
  if c.toNat < 0x80 then asciiDirection c
  else (directionTable.value? c).getD (if isNonspacing c then .mark else .leftToRight)

end AgentSandbox.Text
