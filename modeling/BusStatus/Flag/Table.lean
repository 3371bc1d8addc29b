import BusStatus.Flag.Basic

/-!
# Flag tables

An ordered list of flags. Decoding a word walks the table in order and names every flag that is set;
masks may overlap and names may repeat, and each entry speaks for itself. The bits that no entry
looks at are the unknown bits of the word.
-/

namespace BusStatus

/-- Flags in the order in which they are reported. -/
structure FlagTable where
  flags : List Flag
deriving DecidableEq, Repr

namespace FlagTable

def empty : FlagTable := ⟨[]⟩

def ofList (entries : List (String × Word)) : FlagTable :=
  ⟨entries.map fun (name, mask) => ⟨name, mask⟩⟩

def toList (table : FlagTable) : List (String × Word) :=
  table.flags.map fun flag => (flag.name, flag.mask)

def size (table : FlagTable) : Nat :=
  table.flags.length

def isEmpty (table : FlagTable) : Bool :=
  table.flags.isEmpty

/-- The entries of the first table and behind them those of the second. -/
def append (first second : FlagTable) : FlagTable :=
  ⟨first.flags ++ second.flags⟩

instance : Append FlagTable := ⟨append⟩

/-! ## Reading a word -/

/-- The names of the flags set in a word, in table order. -/
def decode (table : FlagTable) (w : Word) : List String :=
  (table.flags.filter (·.isSetIn w)).map (·.name)

/-- All bits that some entry looks at. -/
def knownMask (table : FlagTable) : Word :=
  table.flags.foldl (fun known flag => known ||| flag.mask) 0

/-- The bits of a word that no entry looks at. -/
def unknownBits (table : FlagTable) (w : Word) : Word :=
  w &&& ~~~table.knownMask

/-- The mask of the first entry of this name. -/
def maskOf? (table : FlagTable) (name : String) : Option Word :=
  (table.flags.find? (·.name == name)).map (·.mask)

end FlagTable

end BusStatus
