import Workbench.Text.Category

set_option autoImplicit false

namespace Workbench

inductive Direction
  | left
  | right
  | arabicDigit
  | digit
  | neutral
  | mark
  deriving DecidableEq, Repr

namespace Direction

-- Marks that are younger than the tables of categories.
def recentMarks : CharSet := .ofText
  "897 1ACF-1ADD 1AE0-1AEB 10D69-10D6D 10EFA-10EFC 113BB-113C0 113CE 113D0 113D2 113E1-113E2
    11B60 11B62-11B64 11B66 11F5A 1611E-16129 1612D-1612F 1E5EE-1E5EF 1E6E3 1E6E6 1E6EE-1E6EF
    1E6F5"

def strongMarks : CharSet := .ofText "CBF CC6 11A07-11A08 11C3F"

def marks : CharSet :=
  (CharSet.unionAll [Category.nonspacingMark, Category.enclosingMark, recentMarks]).diff strongMarks

def neutrals : CharSet := .ofText
  "21-2F 3A-60 7B-D7 F7 2B9-2BA 2C2-2CF 2D2-2ED 2EF-2FF 375 3F6 58A-58F 606-607 609-60A 60C
    60E-60F 66A 6DE 6E9 7F6-7F9 9F2-9F3 9FB AF1 BF3-BFA C78-C7E E3F F3A-F3D 1390-1399 1400
    169B-169C 17DB 17F0-180A 1940-1945 19DE-19FF 200C-214D 218A-2335 237B-2394 2396-26AB
    26AD-27FF 2900-2BFF 2CE5-2CEA 2CF9-2CFF 2E00-3004 3008-3020 3030 3037 303D-303F 30A0 30FB
    31C0-31E5 4DC0-4DFF A490-A4C6 A60D-A60F A673-A67F A700-A721 A788 A828-A82B A838-A839
    A874-A877 AB6A-AB6B FBC3-FE46 10101 10140-1018C 10190-101A0 1091F 10B39-10B3F 10ED0-10ED8
    11052-11065 11660-1166C 11FD5-11FF1 16FE2 1CC00-1CEF0 1D1E9-1D245 1D300-1D356 1E2FF
    1EEF0-1F12F 1F16D-1F16F 1F1AD 1F260-1FBFA"

def digits : CharSet := .ofText
  "30-39 6F0-6F9 102E1-102FB"

def arabicDigits : CharSet := .ofText
  "660-669 66B-66C 10D30-10D39 10E60-10E7E"

def fromRight : CharSet := .ofText
  "5BE-5F4 608 60B 60D 61B-64A 66D-6D5 6E5-6E6 6EE-6EF 6FA-7F5 7FA-8C9 FBB2-FBC2 FE73
    10800-1091B 10920-10B35 10B40-10D23 10D40-10D8F 10E80-10EC7 10F00-10FF6 1E800-1ED3D"

def ofChar (char : Char) : Direction :=
  if marks.contains char then .mark
  else if neutrals.contains char then .neutral
  else if digits.contains char then .digit
  else if arabicDigits.contains char then .arabicDigit
  else if fromRight.contains char then .right
  else .left

def isRightward (direction : Direction) : Bool :=
  direction = .right || direction = .arabicDigit

def endsLeft (direction : Direction) : Bool :=
  direction = .left || direction = .digit

def endsRight (direction : Direction) : Bool :=
  direction = .right || direction = .digit || direction = .arabicDigit

def agree (label : List Direction) : Bool :=
  let last := (label.reverse.dropWhile (· = .mark)).head?
  match label.head? with
  | none => true
  | some .left => label.all (!isRightward ·) && last.all endsLeft
  | some .right =>
      !label.contains .left && last.all endsRight &&
        !(label.contains .digit && label.contains .arabicDigit)
  | some _ => false

def allAgree (labels : List (List Char)) : Bool :=
  let directed := labels.map (·.map ofChar)
  directed.all agree || !directed.any (·.any isRightward)

end Direction

end Workbench
