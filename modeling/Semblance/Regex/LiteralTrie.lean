/-!
# Tries of literals

A choice between literals shares their beginnings, as far as this keeps the order of the literals:
once a literal has ended at a node, later ones branch off that node anew.
-/

namespace Semblance.Regex

/-- The way on from a node, latest entries first. -/
inductive LiteralTrie where
  | nil
  /-- After a byte go on at `child`. -/
  | branch (byte : UInt8) (child older : LiteralTrie)
  /-- A literal has ended. -/
  | stop (older : LiteralTrie)

namespace LiteralTrie

/-- There is a way on. -/
def hasBranch : LiteralTrie → Bool
  | nil => false
  | branch _ _ _ => true
  | stop older => older.hasBranch

/-- A branch for the byte is there since a literal last ended. -/
def isOpen (byte : UInt8) : LiteralTrie → Bool
  | nil => false
  | branch b _ older => b == byte || older.isOpen byte
  | stop _ => false

/-- Change the child at the latest branch for a byte. -/
def modifyChild (byte : UInt8) (change : LiteralTrie → LiteralTrie) : LiteralTrie → LiteralTrie
  | nil => nil
  | branch b child older =>
      if b = byte then branch b (change child) older
      else branch b child (older.modifyChild byte change)
  | stop older => stop older

/-- Add a literal after those that are there. -/
def insert : List UInt8 → LiteralTrie → LiteralTrie
  | [], t =>
      match t with
      | stop older => if older.hasBranch then stop t else t
      | _ => stop t
  | byte :: rest, t =>
      if t.isOpen byte then t.modifyChild byte (insert rest)
      else branch byte (insert rest nil) t

def ofList (literals : List (List UInt8)) : LiteralTrie :=
  literals.foldl (fun t literal => insert literal t) nil

end LiteralTrie

end Semblance.Regex
