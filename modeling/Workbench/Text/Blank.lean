set_option autoImplicit false

namespace Workbench.Text

def isBlank (char : Char) : Bool :=
  let code := char.toNat
  (9 ≤ code && code ≤ 13) || code == 0x20 || code == 0x85 || code == 0xA0 || code == 0x1680 ||
    (0x2000 ≤ code && code ≤ 0x200A) || code == 0x2028 || code == 0x2029 || code == 0x202F ||
    code == 0x205F || code == 0x3000

def trimStart (text : List Char) : List Char :=
  text.dropWhile isBlank

def trimEnd (text : List Char) : List Char :=
  (text.reverse.dropWhile isBlank).reverse

def trim (text : List Char) : List Char :=
  trimEnd (trimStart text)

def allBlank (text : List Char) : Bool :=
  text.all isBlank

def wordsFrom (word : List Char) : List Char -> List (List Char)
  | [] => if word.isEmpty then [] else [word.reverse]
  | char :: rest =>
      if isBlank char then
        if word.isEmpty then wordsFrom [] rest else word.reverse :: wordsFrom [] rest
      else wordsFrom (char :: word) rest

def words (text : List Char) : List (List Char) :=
  wordsFrom [] text

def splitOn (mark : Char) : List Char -> List (List Char)
  | [] => [[]]
  | char :: rest =>
      if char = mark then [] :: splitOn mark rest
      else
        match splitOn mark rest with
        | [] => [[char]]
        | piece :: pieces => (char :: piece) :: pieces

def joinWith (mark : Char) : List (List Char) -> List Char
  | [] => []
  | [piece] => piece
  | piece :: rest => piece ++ mark :: joinWith mark rest

def cutAt? (mark : Char) : List Char -> Option (List Char × List Char)
  | [] => none
  | char :: rest =>
      if char = mark then some ([], rest)
      else (cutAt? mark rest).map fun (before, after) => (char :: before, after)

/-- Continues at `target`, a tail of `text`: never longer than `text`, whatever `target` is, so
that a reader can go on there without further ado. -/
def resume {α : Type} (text target : List α) : List α :=
  text.drop (text.length - target.length)

theorem length_resume_le {α : Type} (text target : List α) :
    (resume text target).length ≤ text.length := by
  simp [resume]

def after? (head : List Char) (text : List Char) : Option (List Char) :=
  if head.isPrefixOf text then some (text.drop head.length) else none

def byteLength : List Char -> Nat
  | [] => 0
  | char :: rest => char.utf8Size + byteLength rest

end Workbench.Text
