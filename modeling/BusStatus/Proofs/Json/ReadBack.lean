import BusStatus.Json.Basic
import BusStatus.Proofs.Json.Reader
import BusStatus.Proofs.Text.Digits

/-!
# Written values are read back

The reader of any JSON text understands every value as it is written here.
-/

namespace BusStatus.Json

open Text (Radix)

/-! ## What a written value says -/

mutual

/-- What the written form of a value says. -/
def value : Json → Value
  | .number n => .natural n
  | .text s => .text s
  | .list items => .list (values items)
  | .object members => .object (memberValues members)

def values : List Json → List Value
  | [] => []
  | v :: vs => v.value :: values vs

def memberValues : List (String × Json) → List (String × Value)
  | [] => []
  | (key, v) :: ms => (key, v.value) :: memberValues ms

end

theorem values_eq_map (vs : List Json) : values vs = vs.map value := by
  induction vs with
  | nil => rfl
  | cons v vs ih => rw [values, ih, List.map_cons]

/-! ## Texts -/

/-- A character is escaped by a letter that stands for it, or by its code if it is a control
character, or not at all. -/
theorem escape_cases (c : Char) :
    (∃ letter, escape c = ['\\', letter] ∧ 0x20 ≤ letter.toNat ∧ Part.ofLetter? letter = some c) ∨
    (c.toNat < 0x20 ∧
      escape c = '\\' :: 'u' :: Radix.hexadecimal.fixedDigits 4 c.toNat) ∨
    (c ≠ '"' ∧ c ≠ '\\' ∧ ¬ c.toNat < 0x20 ∧ escape c = [c]) := by
  unfold escape
  split
  · subst c; exact .inl ⟨_, rfl, by decide, rfl⟩
  split
  · subst c; exact .inl ⟨_, rfl, by decide, rfl⟩
  split
  · subst c; exact .inl ⟨_, rfl, by decide, rfl⟩
  split
  · subst c; exact .inl ⟨_, rfl, by decide, rfl⟩
  split
  · subst c; exact .inl ⟨_, rfl, by decide, rfl⟩
  split
  · subst c; exact .inl ⟨_, rfl, by decide, rfl⟩
  split
  · subst c; exact .inl ⟨_, rfl, by decide, rfl⟩
  split
  · rename_i hlow
    exact .inr (.inl ⟨hlow, rfl⟩)
  · rename_i hquote hescape _ _ _ _ _ hlow
    exact .inr (.inr ⟨hquote, hescape, hlow, rfl⟩)

namespace Part

theorem readAll?_quote (rest : List Char) : readAll? ('"' :: rest) = some ([], rest) := by
  rw [readAll?]

theorem readAll?_plain {c : Char} (hquote : c ≠ '"') (hescape : c ≠ '\\') (hlow : ¬ c.toNat < 0x20)
    {cs rest : List Char} {parts : List Part} (h : readAll? cs = some (parts, rest)) :
    readAll? (c :: cs) = some (.whole c :: parts, rest) := by
  rw [readAll?.eq_5 c cs hquote (fun _ _ _ _ _ hc => absurd hc hescape)
    (fun _ _ hc => absurd hc hescape), if_neg hlow, h]
  rfl

theorem readAll?_letter {letter c : Char} (hletter : ofLetter? letter = some c)
    {cs rest : List Char} {parts : List Part} (h : readAll? cs = some (parts, rest)) :
    readAll? ('\\' :: letter :: cs) = some (.whole c :: parts, rest) := by
  have hcode : letter ≠ 'u' := by
    rintro rfl
    cases hletter
  rw [readAll?.eq_4 letter cs (fun _ _ _ _ _ hu => absurd hu hcode), hletter, h]
  rfl

theorem readAll?_code {code : List Char} {ds : List Nat}
    (hcode : List.Forall₂ Radix.hexadecimal.IsDigit code ds) (hlength : code.length = 4)
    {cs rest : List Char} {parts : List Part} (h : readAll? cs = some (parts, rest)) :
    readAll? ('\\' :: 'u' :: (code ++ cs)) =
      some (ofCode (Radix.hexadecimal.positional ds) :: parts, rest) := by
  obtain ⟨a, b, c, d, rfl⟩ := List.length_eq_four.mp hlength
  rw [List.cons_append, List.cons_append, List.cons_append, List.cons_append, List.nil_append,
    readAll?, Radix.mapM_digit? _ hcode, h]
  rfl

theorem ofCode_toNat {c : Char} (h : c.toNat < 0x20) : ofCode c.toNat = .whole c := by
  rw [ofCode, if_neg (by omega), if_neg (by omega), Char.ofNat_toNat]

theorem readAll?_control {c : Char} (hlow : c.toNat < 0x20) {cs rest : List Char}
    {parts : List Part} (h : readAll? cs = some (parts, rest)) :
    readAll? ('\\' :: 'u' :: (Radix.hexadecimal.fixedDigits 4 c.toNat ++ cs)) =
      some (.whole c :: parts, rest) := by
  obtain ⟨ds, hds, hvalue⟩ := Radix.hexadecimal.exists_fixedDigits 4 c.toNat
  have hsmall : c.toNat % Radix.hexadecimal.base ^ 4 = c.toNat := by
    rw [Radix.base]
    omega
  rw [readAll?_code hds (Radix.hexadecimal.length_fixedDigits 4 _) h, hvalue, hsmall,
    ofCode_toNat hlow]

theorem readAll?_escape (c : Char) {cs rest : List Char} {parts : List Part}
    (h : readAll? cs = some (parts, rest)) :
    readAll? (escape c ++ cs) = some (.whole c :: parts, rest) := by
  rcases escape_cases c with ⟨letter, hc, -, hletter⟩ | ⟨hlow, hc⟩ | ⟨hquote, hescape, hlow, hc⟩
  · rw [hc]
    exact readAll?_letter hletter h
  · rw [hc]
    exact readAll?_control hlow h
  · rw [hc]
    exact readAll?_plain hquote hescape hlow h

theorem readAll?_flatMap_escape (cs rest : List Char) :
    readAll? (cs.flatMap escape ++ '"' :: rest) = some (cs.map .whole, rest) := by
  induction cs with
  | nil => exact readAll?_quote rest
  | cons c cs ih =>
      rw [List.flatMap_cons, List.append_assoc, List.map_cons]
      exact readAll?_escape c ih

theorem join?_map_whole (cs : List Char) : join? (cs.map .whole) = some cs := by
  induction cs with
  | nil => rfl
  | cons c cs ih => rw [List.map_cons, join?, ih, Option.map_some]

end Part

theorem readText?_quote (s : String) (rest : List Char) :
    readText? (s.toList.flatMap escape ++ '"' :: rest) = some (s, rest) := by
  rw [readText?, Part.readAll?_flatMap_escape]
  simp [Part.join?_map_whole]

/-! ## Numbers -/

/-- What may stand behind a number: nothing, a comma or a closing bracket. -/
def Delimited (rest : List Char) : Prop :=
  ∀ c, rest.head? = some c → c = ',' ∨ c = ']' ∨ c = '}'

theorem Delimited.digit?_eq_none {c : Char} {rest : List Char} (h : Delimited (c :: rest)) :
    Radix.decimal.digit? c = none := by
  rcases h c rfl with rfl | rfl | rfl <;> rfl

theorem takeDigits_append {cs : List Char} {ds : List Nat}
    (h : List.Forall₂ Radix.decimal.IsDigit cs ds) {rest : List Char} (hrest : Delimited rest) :
    takeDigits (cs ++ rest) = (ds, rest) := by
  induction h with
  | nil =>
      cases rest with
      | nil => rfl
      | cons c rest => rw [List.nil_append, takeDigits, hrest.digit?_eq_none]
  | cons hd _ ih => rw [List.cons_append, takeDigits, hd.digit?_eq, ih]

theorem Delimited.readFraction?_eq {rest : List Char} (h : Delimited rest) :
    readFraction? rest = some ([], rest) := by
  unfold readFraction?
  split
  · rcases h _ rfl with hc | hc | hc <;> cases hc
  · rfl

theorem Delimited.readExponent?_eq {rest : List Char} (h : Delimited rest) :
    readExponent? rest = some (0, rest) := by
  cases rest with
  | nil => rfl
  | cons c rest =>
      rw [readExponent?, if_neg]
      rcases h c rfl with rfl | rfl | rfl <;> decide

theorem readWhole?_digits (n : Nat) {rest : List Char} (hrest : Delimited rest) :
    ∃ ds, readWhole? (Radix.decimal.digits n ++ rest) = some (ds, rest) ∧
      Radix.decimal.positional ds = n := by
  obtain ⟨ds, hds, hvalue⟩ := Radix.decimal.exists_digits n
  have htake := takeDigits_append hds hrest
  obtain ⟨c, cs, hcons, hzero⟩ := Radix.decimal.exists_digits_eq_cons n
  rw [hcons] at hds
  cases hds with
  | @cons _ d _ ds hd hds =>
      refine ⟨d :: ds, ?_, hvalue⟩
      -- A zero in front is the whole number, so nothing stands behind it.
      have hfirst : ¬ ((d :: ds).head? = some 0 ∧ (d :: ds).length ≠ 1) := by
        rintro ⟨hhead, hlength⟩
        obtain rfl : d = 0 := Option.some.inj hhead
        obtain rfl := hzero hd.eq_zero
        rw [Radix.digits_zero] at hcons
        obtain ⟨-, rfl⟩ := List.cons.inj hcons
        cases hds
        exact hlength rfl
      rw [readWhole?, readDigits?, htake]
      simp only [Option.bind_eq_bind, Option.bind_some, if_neg hfirst]
      rfl

theorem readUnsigned?_digits (n : Nat) {rest : List Char} (hrest : Delimited rest) :
    readUnsigned? (Radix.decimal.digits n ++ rest) = some (⟨n, 0⟩, rest) := by
  obtain ⟨ds, hwhole, hvalue⟩ := readWhole?_digits n hrest
  rw [readUnsigned?, hwhole]
  simp [hrest.readFraction?_eq, hrest.readExponent?_eq, hvalue]

theorem exists_digits_eq_cons (n : Nat) :
    ∃ c cs d, Radix.decimal.digits n = c :: cs ∧ Radix.decimal.IsDigit c d := by
  obtain ⟨ds, hds, -⟩ := Radix.decimal.exists_digits n
  obtain ⟨c, cs, hcons, -⟩ := Radix.decimal.exists_digits_eq_cons n
  rw [hcons] at hds
  cases hds with
  | cons hd _ => exact ⟨c, cs, _, hcons, hd⟩

theorem readNumber?_digits (n : Nat) {rest : List Char} (hrest : Delimited rest) :
    readNumber? (Radix.decimal.digits n ++ rest) = some (⟨n, 0⟩, rest) := by
  have hread := readUnsigned?_digits n hrest
  obtain ⟨c, cs, d, hcons, hd⟩ := exists_digits_eq_cons n
  rw [hcons, List.cons_append] at hread ⊢
  unfold readNumber?
  split
  · rename_i hminus
    exact absurd (List.cons.inj hminus).1 (hd.ne rfl)
  · exact hread

/-- No other token begins with a digit. -/
theorem Token.read?_digits (n : Nat) {rest : List Char} (hrest : Delimited rest) :
    Token.read? (Radix.decimal.digits n ++ rest) = some (.scalar (.natural n), rest) := by
  have hread := readNumber?_digits n hrest
  obtain ⟨c, cs, d, hcons, hd⟩ := exists_digits_eq_cons n
  rw [hcons, List.cons_append] at hread ⊢
  unfold Token.read?
  split
  case h_11 => rw [hread]; rfl
  all_goals
    rename_i hother
    exact absurd (List.cons.inj hother).1 (hd.ne rfl)

theorem quote_append (s : String) (rest : List Char) :
    quote s ++ rest = '"' :: (s.toList.flatMap escape ++ '"' :: rest) := by
  rw [quote, List.cons_append, List.append_assoc, List.singleton_append]

theorem Token.read?_quote (s : String) (rest : List Char) :
    Token.read? (quote s ++ rest) = some (.text s, rest) := by
  rw [quote_append, Token.read?, readText?_quote, Option.map_some]

/-! ## The machine -/

namespace Place

variable {place next : Place} {stack open' : List Frame} {cs rest : List Char}

theorem run_token {token : Token} (hblank : cs.dropWhile isBlank = cs)
    (hread : Token.read? cs = some (token, rest))
    (hstep : place.step stack token = some (next, open')) :
    place.run stack cs = next.run open' rest := by
  rw [run]
  split
  · rename_i hnil
    rw [← hblank, hnil] at hread
    cases hread
  · rename_i c more hcons
    rw [hblank] at hcons
    subst hcons
    split
    · rename_i hnone
      rw [hread] at hnone
      cases hnone
    · rename_i hsome
      rw [hread] at hsome
      cases hsome
      rw [hstep]

theorem run_mark (c : Char) {token : Token} (hblank : isBlank c = false)
    (hread : Token.read? (c :: cs) = some (token, cs))
    (hstep : place.step stack token = some (next, open')) :
    place.run stack (c :: cs) = next.run open' cs :=
  run_token (List.dropWhile_cons_of_neg (by simp [hblank])) hread hstep

theorem run_nil (place : Place) (stack : List Frame) : place.run stack [] = place.result? stack := by
  rw [run]
  rfl

theorem dropWhile_isBlank_digits (n : Nat) (rest : List Char) :
    (Radix.decimal.digits n ++ rest).dropWhile isBlank = Radix.decimal.digits n ++ rest := by
  obtain ⟨c, cs, d, hcons, hd⟩ := exists_digits_eq_cons n
  rw [hcons, List.cons_append, List.dropWhile_cons_of_neg]
  simpa using hd.all (p := fun c => !isBlank c) (by decide)

theorem run_text (s : String) (hstep : place.step stack (.text s) = some (next, open'))
    (rest : List Char) : place.run stack (quote s ++ rest) = next.run open' rest :=
  run_token (by rw [quote_append]; rfl) (Token.read?_quote s rest) hstep

end Place

theorem delimited_cons {c : Char} (h : c = ',' ∨ c = ']' ∨ c = '}') (rest : List Char) :
    Delimited (c :: rest) := by
  intro d hd
  obtain rfl := Option.some.inj hd
  exact h

theorem delimited_moreItems (vs : List Json) (rest : List Char) :
    Delimited (moreItemsToChars vs ++ ']' :: rest) := by
  cases vs with
  | nil => exact delimited_cons (.inr (.inl rfl)) rest
  | cons v vs => exact delimited_cons (.inl rfl) _

theorem delimited_moreMembers (ms : List (String × Json)) (rest : List Char) :
    Delimited (moreMembersToChars ms ++ '}' :: rest) := by
  cases ms with
  | nil => exact delimited_cons (.inr (.inr rfl)) rest
  | cons m ms => exact delimited_cons (.inl rfl) _

mutual

theorem run_toChars (v : Json) (mayClose : Bool) (stack : List Frame) {rest : List Char}
    (hrest : Delimited rest) :
    Place.run (.value mayClose) stack (v.toChars ++ rest) =
      Place.run (.behind v.value) stack rest := by
  cases v with
  | number n =>
      rw [toChars, value]
      exact Place.run_token (Place.dropWhile_isBlank_digits n rest) (Token.read?_digits n hrest) rfl
  | text s =>
      rw [toChars, value]
      exact Place.run_text s rfl rest
  | list items =>
      rw [toChars, value, List.cons_append, List.append_assoc, List.singleton_append]
      rw [Place.run_mark '[' rfl rfl rfl]
      exact run_itemsToChars items stack rest
  | object members =>
      rw [toChars, value, List.cons_append, List.append_assoc, List.singleton_append]
      rw [Place.run_mark '{' rfl rfl rfl]
      exact run_membersToChars members stack rest

theorem run_itemsToChars (items : List Json) (stack : List Frame) (rest : List Char) :
    Place.run (.value true) (.list [] :: stack) (itemsToChars items ++ ']' :: rest) =
      Place.run (.behind (.list (values items))) stack rest := by
  cases items with
  | nil => exact Place.run_mark _ rfl rfl rfl
  | cons v vs =>
      rw [itemsToChars, List.append_assoc,
        run_toChars v true _ (delimited_moreItems vs rest)]
      exact run_moreItemsToChars vs [] v.value stack rest

theorem run_moreItemsToChars (vs : List Json) (before : List Value) (last : Value)
    (stack : List Frame) (rest : List Char) :
    Place.run (.behind last) (.list before :: stack) (moreItemsToChars vs ++ ']' :: rest) =
      Place.run (.behind (.list (before ++ last :: values vs))) stack rest := by
  cases vs with
  | nil => exact Place.run_mark _ rfl rfl rfl
  | cons v vs =>
      rw [moreItemsToChars, List.cons_append, List.append_assoc,
        Place.run_mark ',' rfl rfl rfl,
        run_toChars v false _ (delimited_moreItems vs rest),
        run_moreItemsToChars vs (before ++ [last]) v.value stack rest, List.append_assoc]
      rfl

theorem run_membersToChars (members : List (String × Json)) (stack : List Frame)
    (rest : List Char) :
    Place.run (.name true []) stack (membersToChars members ++ '}' :: rest) =
      Place.run (.behind (.object (memberValues members))) stack rest := by
  cases members with
  | nil => exact Place.run_mark _ rfl rfl rfl
  | cons m ms =>
      obtain ⟨key, v⟩ := m
      rw [membersToChars, memberToChars, List.append_assoc, List.append_assoc, List.cons_append,
        Place.run_text key rfl, Place.run_mark ':' rfl rfl rfl,
        run_toChars v false _ (delimited_moreMembers ms rest)]
      exact run_moreMembersToChars ms [] key v.value stack rest

theorem run_moreMembersToChars (ms : List (String × Json)) (before : List (String × Value))
    (key : String) (last : Value) (stack : List Frame) (rest : List Char) :
    Place.run (.behind last) (.object before key :: stack) (moreMembersToChars ms ++ '}' :: rest) =
      Place.run (.behind (.object (before ++ (key, last) :: memberValues ms))) stack rest := by
  cases ms with
  | nil => exact Place.run_mark _ rfl rfl rfl
  | cons m ms =>
      obtain ⟨key', v⟩ := m
      rw [moreMembersToChars, memberToChars, List.cons_append, List.append_assoc, List.append_assoc,
        List.cons_append, Place.run_mark ',' rfl rfl rfl, Place.run_text key' rfl,
        Place.run_mark ':' rfl rfl rfl,
        run_toChars v false _ (delimited_moreMembers ms rest),
        run_moreMembersToChars ms (before ++ [(key, last)]) key' v.value stack rest,
        List.append_assoc]
      rfl

end

theorem read_render (v : Json) : Value.read v.render = some v.value := by
  have hend : Delimited [] := by rintro c ⟨⟩
  have hrun := run_toChars v false [] hend
  rw [List.append_nil, Place.run_nil] at hrun
  rw [Value.read, render, String.toList_ofList, hrun]
  rfl

end BusStatus.Json
