import LineEditor.Table
import LineEditor.Text.Basic

/-!
# Registers

Registers hold texts that commands put away. The unnamed register is a stack of the last nine
texts, which the digits `1` to `9` read from the top. A letter names one text: stored under its
small form it replaces the text, under its capital form it is added to it.
-/

namespace LineEditor

/-- The stack of texts stored without a name, and the texts stored under letters. -/
structure Registers where
  /-- Texts stored without a name, newest first. -/
  unnamed : List Text := []
  /-- Texts stored under small letters, in the order of the letters. -/
  named : Table Char Text := []
  deriving Inhabited

namespace Registers

/-- How many texts the unnamed register keeps. -/
def depth : Nat := 9

/-- The digits that read the unnamed register, from the top. -/
def digits : List Char := ['1', '2', '3', '4', '5', '6', '7', '8', '9']

/-- The character names a register where a command takes one. -/
def isName (c : Char) : Bool := c.isAlphanum || c = '"'

/-- Stores a text, `none` when the name is one that cannot be written. -/
def store? (r : Registers) (name : Option Char) (text : Text) : Option Registers :=
  match name with
  | none => some { r with unnamed := (text :: r.unnamed).take depth }
  | some c =>
    if c = '"' then some { r with unnamed := (text :: r.unnamed).take depth }
    else if c.isLower then some { r with named := Table.insert c text r.named }
    else if c.isUpper then
      let letter := c.toLower
      let earlier := (Table.get? letter r.named).getD []
      some { r with named := Table.insert letter (earlier ++ text) r.named }
    else none

/-- The text of a register, `none` when it is empty or does not exist. -/
def get? (r : Registers) (name : Option Char) : Option Text :=
  match name with
  | none => r.unnamed.head?
  | some c =>
    if c = '"' then r.unnamed.head?
    else if c ∈ digits then r.unnamed[c.toNat - '1'.toNat]?
    else if c.isAlpha then Table.get? c.toLower r.named
    else none

/-- All registers that hold a text: the stack by its digits, then the letters in order. -/
def list (r : Registers) : List (Char × Text) := digits.zip r.unnamed ++ r.named

end Registers

end LineEditor
