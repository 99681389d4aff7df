import SecScanMonitor.Foundations.Regex
import SecScanMonitor.Domain.Common

/-! The character classes of Python's `re` that the patterns of the sanitizers are written with. What the
Unicode tables say of characters beyond ASCII is a parameter. -/

namespace SecScanMonitor.Sanitize

open Foundations Domain Foundations.Regex

abbrev Text := List Char

/-- `str.isalnum` and `str.isdecimal` of the characters beyond ASCII. -/
structure UnicodeTables where
  alnum : Char → Bool
  decimal : Char → Bool

section Classes

variable (u : UnicodeTables)

def isWord (c : Char) : Bool :=
  if c.toNat < 128 then c.isAlphanum || c = '_' else u.alnum c

def isDecimal (c : Char) : Bool :=
  if c.toNat < 128 then c.isDigit else u.decimal c

/-- `\b` -/
def edge : Regex := look fun l n => (l.any (isWord u)) != (n.any (isWord u))

/-- Where case is ignored, four letters beyond ASCII match a letter of ASCII. -/
def fold (c : Char) : Char :=
  if c.toNat = 0x130 ∨ c.toNat = 0x131 then 'i'
  else if c.toNat = 0x212A then 'k'
  else if c.toNat = 0x17F then 's'
  else c.toLower

def among (cs : String) (c : Char) : Bool := cs.toList.contains c

/-- A text, letter by letter. -/
def text (s : String) : Regex := sequence (s.toList.map fun x => one fun c => c = x)

/-- A text in small letters, where case is ignored. -/
def anyCase (s : String) : Regex := sequence (s.toList.map fun x => one fun c => fold c = x)

/-- `[A-Za-z0-9]` where case is ignored, and the characters named besides. -/
def alnumOr (cs : String) : Regex := one fun c => (fold c).isAlphanum || among cs c

/-- `[A-Za-z0-9]` where case counts, and the characters named besides. -/
def exactAlnumOr (cs : String) : Regex := one fun c => c.isAlphanum || among cs c

def space : Regex := one isSpace

def optOf (cs : String) : Regex := opt (one (among cs))

end Classes

end SecScanMonitor.Sanitize
