/-!
# Terminal control

What a terminal shows of a text. An escape character begins a control sequence, which is not shown up
to its end; outside of sequences all characters are shown but the control characters, of which only
the white space is. Main statement: a text without control characters is shown whole.
-/

namespace BusStatus.Text.Terminal

/-- Where a character stands in a control sequence. -/
inductive Place where
  /-- In no sequence. -/
  | ground
  /-- Behind an escape character. -/
  | escape
  /-- In a short sequence, which ends with its first character that is no mark. -/
  | marks
  /-- In a sequence of parameters, which ends with a letter. -/
  | parameters
  /-- At the head of a device string, whose letter begins the string itself. -/
  | deviceHead
  /-- In the parameters of a device string. -/
  | deviceParameters
  /-- In the marks behind the parameters of a device string. -/
  | deviceMarks
  /-- In a string that is not for the reader. -/
  | string
  /-- In a command to the system, which ends with a bell. -/
  | command
deriving DecidableEq, Repr

namespace Place

/-- The place behind an escape character and this one. -/
def afterEscape (c : Char) : Place :=
  if c = '[' then .parameters
  else if c = ']' then .command
  else if c = 'P' then .deviceHead
  else if c = 'X' ∨ c = '^' ∨ c = '_' then .string
  else if ' ' ≤ c ∧ c ≤ '/' then .marks
  else if '0' ≤ c ∧ c ≤ '~' then .ground
  else .escape

/-- The place behind a character of the head of a device string; what does not belong there begins the
string at once. -/
def inDevice (place : Place) (c : Char) : Place :=
  if '@' ≤ c ∧ c ≤ '~' then .string
  else if ' ' ≤ c ∧ c ≤ '/' then .deviceMarks
  else if '0' ≤ c ∧ c ≤ '?' then
    if place = .deviceHead ∨ (place = .deviceParameters ∧ c ≤ ';') then .deviceParameters
    else .string
  else place

/-- The byte that ends a string. -/
def stringEnd : UInt8 := 0x9C

/-- The place behind a character. An escape character begins a sequence wherever it stands, and the
characters that cancel one end it wherever they stand. -/
def next (place : Place) (c : Char) : Place :=
  if c = '\x1b' then .escape
  else if c = '\x18' ∨ c = '\x1a' then .ground
  else
    match place with
    | .ground => .ground
    | .escape => afterEscape c
    | .marks => if '0' ≤ c ∧ c ≤ '~' then .ground else .marks
    | .parameters => if '@' ≤ c ∧ c ≤ '~' then .ground else .parameters
    | .deviceHead | .deviceParameters | .deviceMarks => place.inDevice c
    | .string => if stringEnd ∈ String.utf8EncodeChar c then .ground else .string
    | .command => if c = '\x07' then .ground else .command

/-- The white space among the control characters, which takes effect also inside a sequence. -/
def isSpacing (c : Char) : Bool :=
  c == '\t' || c == '\n' || c == '\x0c' || c == '\r'

def isWide (c : Char) : Bool :=
  0x80 ≤ c.toNat

def shows (place : Place) (c : Char) : Bool :=
  match place with
  | .ground => (' ' ≤ c && c ≤ '~') || isSpacing c || isWide c
  | .escape | .marks | .parameters => isSpacing c
  | .deviceHead | .deviceParameters | .deviceMarks | .string | .command => false

end Place

/-! ## Following a text -/

/-- How far a text is followed. -/
structure Reader where
  place : Place := .ground
  /-- The last character was shown. Then the following ones are shown too, whatever their place, up
  to the next one that is not shown outside of sequences. -/
  showing : Bool := false
deriving DecidableEq, Repr

namespace Reader

/-- The next character runs on from shown ones. -/
def runsOn (r : Reader) (c : Char) : Bool :=
  r.showing && Place.ground.shows c

def shows (r : Reader) (c : Char) : Bool :=
  r.runsOn c || r.place.shows c

/-- Passes the next character; a wide one that runs on ends the sequence that it stands in. -/
def pass (r : Reader) (c : Char) : Reader where
  place :=
    if r.runsOn c then if Place.isWide c then .ground else r.place
    else r.place.next c
  showing := r.shows c

/-- What is shown of the rest of a text. -/
def shown (r : Reader) : List Char → List Char
  | [] => []
  | c :: cs => if r.shows c then c :: (r.pass c).shown cs else (r.pass c).shown cs

end Reader

/-- What a terminal shows of a text. -/
def visible (s : String) : String :=
  String.ofList (Reader.shown {} s.toList)

/-! ## Texts without control characters -/

/-- Outside of sequences a character that is shown leads to no sequence. -/
theorem Place.next_ground {c : Char} (h : Place.ground.shows c) : Place.ground.next c = .ground := by
  have escape : ¬Place.ground.shows '\x1b' := by decide
  have hc : c ≠ '\x1b' := by
    rintro rfl
    exact escape h
  simp [next, hc]

/-- Outside of sequences a reader stays there as long as it shows what it passes. -/
theorem Reader.place_pass {r : Reader} {c : Char} (hr : r.place = .ground)
    (h : Place.ground.shows c) : (r.pass c).place = .ground := by
  simp only [pass, hr, Place.next_ground h]
  split
  · split <;> rfl
  · rfl

theorem Reader.shown_eq_self {r : Reader} {cs : List Char} (hr : r.place = .ground)
    (h : ∀ c ∈ cs, Place.ground.shows c) : r.shown cs = cs := by
  induction cs generalizing r with
  | nil => rfl
  | cons c cs ih =>
      have hc := h c (by simp)
      have hs : r.shows c := by simp [shows, hr, hc]
      simp [shown, hs, ih (place_pass hr hc) fun d hd => h d (by simp [hd])]

/-- A text without control characters is shown whole. -/
theorem visible_eq_self {s : String} (h : ∀ c ∈ s.toList, Place.ground.shows c) : visible s = s := by
  rw [visible, Reader.shown_eq_self (r := {}) rfl h, String.ofList_toList]

end BusStatus.Text.Terminal
