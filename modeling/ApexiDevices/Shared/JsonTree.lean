import ApexiDevices.Shared.Bytes

set_option autoImplicit false

/-!
# The structure of a JSON text

A text is read as strings, arrays, objects and the tokens between them, which
are numbers or literals and keep their text. White space between tokens is not
read: nothing here writes any.
-/

namespace Device

inductive JsonTree where
  | token (text : Bytes)
  | string (value : Bytes)
  | array (items : List JsonTree)
  | object (members : List (Bytes × JsonTree))

namespace JsonTree

/-! ## Strings -/

/-- One character of a string literal: as it is, or a code unit in hexadecimal. -/
inductive Symbol where
  | byte (value : UInt8)
  | unit (code : Nat)

def utf8 (code : Nat) : Bytes :=
  if 0xd800 ≤ code ∧ code < 0xe000 then [0xef, 0xbf, 0xbd] else String.utf8EncodeChar (Char.ofNat code)

def decode : List Symbol → Bytes
  | [] => []
  | .byte value :: rest => value :: decode rest
  | .unit high :: .unit low :: rest =>
    -- Two halves of a surrogate pair are one character.
    if 0xd800 ≤ high ∧ high < 0xdc00 ∧ 0xdc00 ≤ low ∧ low < 0xe000 then
      utf8 (0x10000 + (high - 0xd800) * 0x400 + (low - 0xdc00)) ++ decode rest
    else utf8 high ++ decode (.unit low :: rest)
  | .unit code :: rest => utf8 code ++ decode rest

def hexDigit? (byte : UInt8) : Option Nat :=
  if 0x30 ≤ byte ∧ byte ≤ 0x39 then some (byte.toNat - 0x30)
  else if 0x61 ≤ byte ∧ byte ≤ 0x66 then some (byte.toNat - 0x61 + 10)
  else if 0x41 ≤ byte ∧ byte ≤ 0x46 then some (byte.toNat - 0x41 + 10)
  else none

/-- The letter behind a backslash. -/
def unescape (letter : UInt8) : Option UInt8 :=
  if letter = 0x22 ∨ letter = 0x5c ∨ letter = 0x2f then some letter
  else if letter = 0x62 then some 0x08
  else if letter = 0x66 then some 0x0c
  else if letter = 0x6e then some 0x0a
  else if letter = 0x72 then some 0x0d
  else if letter = 0x74 then some 0x09
  else none

def cons (symbol : Symbol) : Option (List Symbol × Bytes) → Option (List Symbol × Bytes) :=
  Option.map fun (symbols, rest) => (symbol :: symbols, rest)

/-- The symbols up to the closing quote, and what follows it. A control character is refused. -/
def readSymbols : Bytes → Option (List Symbol × Bytes)
  | [] => none
  | byte :: rest =>
    if byte = 0x22 then some ([], rest)
    else if byte < 0x20 then none
    else if byte ≠ 0x5c then cons (.byte byte) (readSymbols rest)
    else
      match rest with
      | [] => none
      | letter :: rest =>
        if letter = 0x75 then
          match rest with
          | first :: second :: third :: fourth :: rest => do
            let code := (((← hexDigit? first) * 16 + (← hexDigit? second)) * 16 + (← hexDigit? third)) * 16 +
              (← hexDigit? fourth)
            cons (.unit code) (readSymbols rest)
          | _ => none
        else do
          let byte ← unescape letter
          cons (.byte byte) (readSymbols rest)

/-- The value of a string literal behind its opening quote. -/
def readString (text : Bytes) : Option (Bytes × Bytes) :=
  (readSymbols text).map fun (symbols, rest) => (decode symbols, rest)

/-! ## Values -/

def tokenByte (byte : UInt8) : Bool :=
  (0x30 ≤ byte && byte ≤ 0x39) || (0x61 ≤ byte && byte ≤ 0x7a) || (0x41 ≤ byte && byte ≤ 0x5a) || byte == 0x2b ||
    byte == 0x2d || byte == 0x2e

abbrev Reader : Type := Bytes → Option (JsonTree × Bytes)

def readItems (value : Reader) : Nat → Bytes → Option (List JsonTree × Bytes)
  | 0, _ => none
  | fuel + 1, text => do
    let (item, rest) ← value text
    match rest with
    | 0x2c :: rest =>
      let (items, rest) ← readItems value fuel rest
      return (item :: items, rest)
    | 0x5d :: rest => return ([item], rest)
    | _ => none

def readMembers (value : Reader) : Nat → Bytes → Option (List (Bytes × JsonTree) × Bytes)
  | 0, _ => none
  | fuel + 1, text => do
    match text with
    | 0x22 :: text =>
      let (name, rest) ← readString text
      match rest with
      | 0x3a :: rest =>
        let (member, rest) ← value rest
        match rest with
        | 0x2c :: rest =>
          let (members, rest) ← readMembers value fuel rest
          return ((name, member) :: members, rest)
        | 0x7d :: rest => return ([(name, member)], rest)
        | _ => none
      | _ => none
    | _ => none

def readValue : Nat → Reader
  | 0, _ => none
  | fuel + 1, text =>
    match text with
    | [] => none
    | 0x22 :: rest => (readString rest).map fun (value, rest) => (.string value, rest)
    | 0x5b :: 0x5d :: rest => some (.array [], rest)
    | 0x5b :: rest => (readItems (readValue fuel) text.length rest).map fun (items, rest) => (.array items, rest)
    | 0x7b :: 0x7d :: rest => some (.object [], rest)
    | 0x7b :: rest =>
      (readMembers (readValue fuel) text.length rest).map fun (members, rest) => (.object members, rest)
    | text => if (text.takeWhile tokenByte).isEmpty then none
      else some (.token (text.takeWhile tokenByte), text.dropWhile tokenByte)

def parse (text : Bytes) : Option JsonTree :=
  match readValue text.length text with
  | some (value, []) => some value
  | _ => none

/-! ## Texts by their parts -/

/-- The token before this ends here. -/
def Delimited (rest : Bytes) : Prop := ∀ byte ∈ rest.head?, tokenByte byte = false

/-- Wherever this text stands, it is read as the value. -/
def Text (text : Bytes) (value : JsonTree) : Prop :=
  ∀ (fuel : Nat) (rest : Bytes), text.length ≤ fuel → Delimited rest → readValue fuel (text ++ rest) = some (value, rest)

theorem delimited_nil : Delimited [] := by simp [Delimited]

theorem delimited_cons {byte : UInt8} {rest : Bytes} (other : tokenByte byte = false) : Delimited (byte :: rest) := by
  simpa [Delimited] using other

theorem Text.parse {text : Bytes} {value : JsonTree} (reads : Text text value) : parse text = some value := by
  have whole := reads text.length [] (Nat.le_refl _) delimited_nil
  rw [List.append_nil] at whole
  rw [JsonTree.parse, whole]

theorem Text.unique {text : Bytes} {value other : JsonTree} (reads : Text text value) (again : Text text other) :
    value = other :=
  Option.some.inj (reads.parse.symm.trans again.parse)

/-- What stands between the quotes of a literal of this value. -/
def Literal (content value : Bytes) : Prop := ∀ rest, readString (content ++ 0x22 :: rest) = some (value, rest)

theorem Literal.unique {content value other : Bytes} (reads : Literal content value) (again : Literal content other) :
    value = other :=
  congrArg Prod.fst (Option.some.inj ((reads []).symm.trans (again [])))

def plain (byte : UInt8) : Bool := 0x20 ≤ byte && byte != 0x22 && byte != 0x5c

/-- A part of a literal that stands for these bytes, whatever follows it. -/
def Escapes (content value : Bytes) : Prop :=
  ∀ rest, readSymbols (content ++ rest) =
    (readSymbols rest).map fun (symbols, rest) => (value.map Symbol.byte ++ symbols, rest)

theorem Escapes.nil : Escapes [] [] := by
  intro rest
  simp

theorem Escapes.append {first second firstValue secondValue : Bytes} (here : Escapes first firstValue)
    (there : Escapes second secondValue) : Escapes (first ++ second) (firstValue ++ secondValue) := by
  intro rest
  rw [List.append_assoc, here, there, Option.map_map]
  simp [Function.comp_def, List.append_assoc]

theorem Escapes.flatMap {α : Type} {parts : List α} {content value : α → Bytes}
    (each : ∀ part ∈ parts, Escapes (content part) (value part)) :
    Escapes (parts.flatMap content) (parts.flatMap value) := by
  induction parts with
  | nil => exact .nil
  | cons part parts ih =>
    rw [List.flatMap_cons, List.flatMap_cons]
    exact (each part List.mem_cons_self).append (ih fun part member => each part (List.mem_cons_of_mem _ member))

theorem escapes_plain {byte : UInt8} (is : plain byte = true) : Escapes [byte] [byte] := by
  intro rest
  simp only [plain, Bool.and_eq_true, decide_eq_true_eq, bne_iff_ne, ne_eq] at is
  obtain ⟨⟨printable, quote⟩, backslash⟩ := is
  rw [List.singleton_append, readSymbols.eq_def]
  dsimp only
  rw [if_neg quote, if_neg (UInt8.not_lt.mpr printable), if_pos backslash]
  rfl

theorem escapes_letter {letter byte : UInt8} (known : unescape letter = some byte) :
    Escapes [0x5c, letter] [byte] := by
  intro rest
  have other : letter ≠ 0x75 := by
    rintro rfl
    cases known
  rw [readSymbols.eq_def]
  simp only [List.cons_append, List.nil_append]
  rw [if_neg (by decide), if_neg (by decide), if_neg (by decide), if_neg other, known]
  rfl

theorem readSymbols_quote (rest : Bytes) : readSymbols (0x22 :: rest) = some ([], rest) := by
  rw [readSymbols.eq_def]
  rfl

theorem decode_bytes (value : Bytes) : decode (value.map Symbol.byte) = value := by
  induction value with
  | nil => rfl
  | cons byte value ih => rw [List.map_cons, decode, ih]

theorem Escapes.literal {content value : Bytes} (escapes : Escapes content value) : Literal content value := by
  intro rest
  rw [readString, escapes, readSymbols_quote]
  simp [decode_bytes]

theorem literal_plain {name : Bytes} (each : ∀ byte ∈ name, plain byte = true) : Literal name name := by
  have parts : Escapes (name.flatMap fun byte => [byte]) (name.flatMap fun byte => [byte]) :=
    .flatMap fun byte member => escapes_plain (each byte member)
  rw [List.flatMap_singleton'] at parts
  exact parts.literal

def quoted (content : Bytes) : Bytes := 0x22 :: content ++ [0x22]

theorem text_string {content value : Bytes} (literal : Literal content value) : Text (quoted content) (.string value) := by
  intro fuel rest enough _
  obtain ⟨fuel, rfl⟩ : ∃ fewer, fuel = fewer + 1 := Nat.exists_eq_add_one.mpr (by simp [quoted] at enough; omega)
  have same : quoted content ++ rest = 0x22 :: (content ++ 0x22 :: rest) := by simp [quoted]
  rw [same, readValue, literal rest, Option.map_some]

theorem text_token {token : Bytes} (some : token ≠ []) (all : ∀ byte ∈ token, tokenByte byte = true) :
    Text token (.token token) := by
  intro fuel rest enough delimited
  obtain ⟨first, more, rfl⟩ := List.exists_cons_of_ne_nil some
  obtain ⟨fuel, rfl⟩ : ∃ fewer, fuel = fewer + 1 := Nat.exists_eq_add_one.mpr (by simp at enough; omega)
  have here := all first List.mem_cons_self
  have taken : (first :: more ++ rest).takeWhile tokenByte = first :: more := by
    rw [List.takeWhile_append_of_pos all]
    cases rest with
    | nil => simp
    | cons byte rest => simp [delimited byte rfl]
  have dropped : (first :: more ++ rest).dropWhile tokenByte = rest := by
    rw [List.dropWhile_append_of_pos all]
    cases rest with
    | nil => rfl
    | cons byte rest => simp [delimited byte rfl]
  have opens (byte : UInt8) (other : tokenByte byte = false) : first ≠ byte := fun same => by simp [same, other] at here
  unfold readValue
  split
  case h_1 empty => cases empty
  case h_2 quote => exact absurd (List.cons.inj quote).1 (opens _ rfl)
  case h_3 bracket => exact absurd (List.cons.inj bracket).1 (opens _ rfl)
  case h_4 bracket => exact absurd (List.cons.inj bracket).1 (opens _ rfl)
  case h_5 brace => exact absurd (List.cons.inj brace).1 (opens _ rfl)
  case h_6 brace => exact absurd (List.cons.inj brace).1 (opens _ rfl)
  case h_7 => rw [taken, dropped, if_neg (by simp)]

/-- A part of an array: its text and its value. -/
abbrev Item : Type := Bytes × JsonTree

def renderItems : List Item → Bytes
  | [] => []
  | [(text, _)] => text
  | (text, _) :: next :: rest => text ++ 0x2c :: renderItems (next :: rest)

theorem renderItems_cons (item : Item) (rest : List Item) :
    renderItems (item :: rest) = item.1 ++ rest.flatMap fun next => 0x2c :: next.1 := by
  induction rest generalizing item with
  | nil => simp [renderItems]
  | cons next rest ih => rw [renderItems, ih, List.flatMap_cons, List.cons_append]

theorem renderItems_length (items : List Item) (some : ∀ item ∈ items, item.1 ≠ []) :
    items.length ≤ (renderItems items).length := by
  induction items with
  | nil => exact Nat.le_refl _
  | cons item items ih =>
    have here := List.length_pos_iff.mpr (some item List.mem_cons_self)
    have later := ih fun item member => some item (List.mem_cons_of_mem _ member)
    cases items with
    | nil => exact here
    | cons next rest =>
      simp only [renderItems, List.length_append, List.length_cons] at later ⊢
      omega

theorem readItems_render {value : Reader} {items : List Item} (present : items ≠ []) {fuel : Nat}
    (enough : items.length ≤ fuel)
    (reads : ∀ item ∈ items, ∀ rest, Delimited rest → value (item.1 ++ rest) = some (item.2, rest)) (rest : Bytes) :
    readItems value fuel (renderItems items ++ 0x5d :: rest) = some (items.map Prod.snd, rest) := by
  induction items generalizing fuel with
  | nil => exact absurd rfl present
  | cons item items ih =>
    obtain ⟨fuel, rfl⟩ : ∃ fewer, fuel = fewer + 1 := Nat.exists_eq_add_one.mpr (by simp at enough; omega)
    have here := reads item List.mem_cons_self
    cases items with
    | nil =>
      have one : renderItems [item] ++ 0x5d :: rest = item.1 ++ 0x5d :: rest := rfl
      rw [one, readItems, here _ (@delimited_cons 0x5d _ rfl)]
      rfl
    | cons next items =>
      have more : renderItems (item :: next :: items) ++ 0x5d :: rest =
          item.1 ++ 0x2c :: (renderItems (next :: items) ++ 0x5d :: rest) := by simp [renderItems]
      have later := ih (List.cons_ne_nil _ _) (Nat.le_of_succ_le_succ enough)
        fun entry member => reads entry (List.mem_cons_of_mem _ member)
      rw [more, readItems, here _ (@delimited_cons 0x2c _ rfl)]
      simp only [Option.bind_eq_bind, Option.bind_some, later]
      rfl

theorem renderItems_item {items : List Item} {item : Item} (member : item ∈ items) :
    item.1.length ≤ (renderItems items).length := by
  induction items with
  | nil => cases member
  | cons first items ih =>
    cases items with
    | nil =>
      rw [List.mem_singleton.mp member]
      exact Nat.le_refl _
    | cons next rest =>
      simp only [renderItems, List.length_append, List.length_cons]
      rcases List.mem_cons.mp member with rfl | member
      · omega
      · have later := ih member
        omega

def renderArray (items : List Item) : Bytes := 0x5b :: renderItems items ++ [0x5d]

theorem text_ne_nil {text : Bytes} {value : JsonTree} (reads : Text text value) : text ≠ [] := by
  rintro rfl
  have whole := reads 0 [] (Nat.le_refl _) delimited_nil
  cases whole

theorem text_head {text : Bytes} {value : JsonTree} (reads : Text text value) : text.head? ≠ some 0x5d := by
  intro bracket
  have whole := reads text.length [] (Nat.le_refl _) delimited_nil
  obtain ⟨first, rest, rfl⟩ := List.exists_cons_of_ne_nil (text_ne_nil reads)
  cases bracket
  cases whole

theorem readValue_bracket {first : UInt8} (other : first ≠ 0x5d) (fuel : Nat) (rest : Bytes) :
    readValue (fuel + 1) (0x5b :: first :: rest) =
      (readItems (readValue fuel) (0x5b :: first :: rest).length (first :: rest)).map fun (items, rest) =>
        (.array items, rest) := by
  unfold readValue
  split <;> simp_all

theorem readValue_brace (fuel : Nat) (rest : Bytes) :
    readValue (fuel + 1) (0x7b :: 0x22 :: rest) =
      (readMembers (readValue fuel) (0x7b :: 0x22 :: rest).length (0x22 :: rest)).map fun (members, rest) =>
        (.object members, rest) := by
  unfold readValue
  split <;> simp_all

theorem text_array {items : List Item} (reads : ∀ item ∈ items, Text item.1 item.2) :
    Text (renderArray items) (.array (items.map Prod.snd)) := by
  intro fuel rest enough _
  obtain ⟨fuel, rfl⟩ : ∃ fewer, fuel = fewer + 1 := Nat.exists_eq_add_one.mpr (by simp [renderArray] at enough; omega)
  have same : renderArray items ++ rest = 0x5b :: (renderItems items ++ 0x5d :: rest) := by simp [renderArray]
  have size : (renderItems items).length ≤ fuel := by
    simp only [renderArray, List.length_append, List.length_cons, List.length_nil] at enough
    omega
  rw [same]
  cases items with
  | nil => rfl
  | cons item items =>
    have counted : (item :: items).length ≤ (0x5b :: (renderItems (item :: items) ++ 0x5d :: rest)).length := by
      have less := renderItems_length (item :: items) fun item member => text_ne_nil (reads item member)
      simp only [List.length_cons, List.length_append] at less ⊢
      omega
    have each := readItems_render (List.cons_ne_nil item items) counted
      (fun entry member rest => reads entry member fuel rest ((renderItems_item member).trans size)) rest
    -- The items do not begin with the closing bracket.
    obtain ⟨first, more, start⟩ := List.exists_cons_of_ne_nil (text_ne_nil (reads item List.mem_cons_self))
    have other : first ≠ 0x5d := by
      rintro rfl
      exact text_head (reads item List.mem_cons_self) (by rw [start]; rfl)
    obtain ⟨later, begins⟩ : ∃ later, renderItems (item :: items) ++ 0x5d :: rest = first :: later := by
      cases items with
      | nil => exact ⟨more ++ 0x5d :: rest, by simp [renderItems, start]⟩
      | cons next items => exact ⟨more ++ 0x2c :: (renderItems (next :: items) ++ 0x5d :: rest), by simp [renderItems, start]⟩
    rw [begins] at each ⊢
    rw [readValue_bracket other, each]
    rfl

/-! An object has names that need no escapes. -/

/-- A part of an object: its name, its text and its value. -/
abbrev Member : Type := Bytes × Item

def renderMember : Member → Bytes
  | (name, text, _) => quoted name ++ 0x3a :: text

def renderMembers : List Member → Bytes
  | [] => []
  | [member] => renderMember member
  | member :: next :: rest => renderMember member ++ 0x2c :: renderMembers (next :: rest)

theorem renderMembers_cons (member : Member) (rest : List Member) :
    renderMembers (member :: rest) = renderMember member ++ rest.flatMap fun next => 0x2c :: renderMember next := by
  induction rest generalizing member with
  | nil => simp [renderMembers]
  | cons next rest ih => rw [renderMembers, ih, List.flatMap_cons, List.cons_append]

def renderObject (members : List Member) : Bytes := 0x7b :: renderMembers members ++ [0x7d]

def Member.value (member : Member) : Bytes × JsonTree := (member.1, member.2.2)

theorem readMembers_render {value : Reader} {members : List Member} (present : members ≠ []) {fuel : Nat}
    (enough : members.length ≤ fuel) (names : ∀ member ∈ members, ∀ byte ∈ member.1, plain byte = true)
    (reads : ∀ member ∈ members, ∀ rest, Delimited rest → value (member.2.1 ++ rest) = some (member.2.2, rest))
    (rest : Bytes) :
    readMembers value fuel (renderMembers members ++ 0x7d :: rest) = some (members.map Member.value, rest) := by
  induction members generalizing fuel with
  | nil => exact absurd rfl present
  | cons member members ih =>
    obtain ⟨fuel, rfl⟩ : ∃ fewer, fuel = fewer + 1 := Nat.exists_eq_add_one.mpr (by simp at enough; omega)
    obtain ⟨name, text, item⟩ := member
    have here := reads (name, text, item) List.mem_cons_self
    have named := literal_plain (names (name, text, item) List.mem_cons_self)
    cases members with
    | nil =>
      have one : renderMembers [(name, text, item)] ++ 0x7d :: rest = 0x22 :: (name ++ 0x22 :: (0x3a :: (text ++ 0x7d :: rest))) := by
        simp [renderMembers, renderMember, quoted]
      rw [one, readMembers]
      simp only [named _, Option.bind_eq_bind, Option.bind_some, here _ (@delimited_cons 0x7d _ rfl)]
      rfl
    | cons next members =>
      have more : renderMembers ((name, text, item) :: next :: members) ++ 0x7d :: rest =
          0x22 :: (name ++ 0x22 :: (0x3a :: (text ++ 0x2c :: (renderMembers (next :: members) ++ 0x7d :: rest)))) := by
        simp [renderMembers, renderMember, quoted]
      have later := ih (List.cons_ne_nil _ _) (Nat.le_of_succ_le_succ enough)
        (fun entry member => names entry (List.mem_cons_of_mem _ member))
        fun entry member => reads entry (List.mem_cons_of_mem _ member)
      rw [more, readMembers]
      simp only [named _, Option.bind_eq_bind, Option.bind_some, here _ (@delimited_cons 0x2c _ rfl), later]
      rfl

theorem renderMembers_length (members : List Member) : members.length ≤ (renderMembers members).length := by
  induction members with
  | nil => exact Nat.le_refl _
  | cons member members ih =>
    cases members with
    | nil => simp [renderMembers, renderMember, quoted]
    | cons next rest =>
      simp only [renderMembers, renderMember, quoted, List.length_append, List.length_cons] at ih ⊢
      omega

theorem renderMembers_member {members : List Member} {name text : Bytes} {value : JsonTree}
    (inside : (name, text, value) ∈ members) : text.length ≤ (renderMembers members).length := by
  induction members with
  | nil => cases inside
  | cons first members ih =>
    obtain ⟨firstName, firstText, firstValue⟩ := first
    rcases List.mem_cons.mp inside with same | inside
    · cases same
      cases members <;> simp only [renderMembers, renderMember, List.length_append, List.length_cons] <;> omega
    · have later := ih inside
      cases members with
      | nil => cases inside
      | cons next rest =>
        simp only [renderMembers, renderMember, List.length_append, List.length_cons]
        omega

theorem text_object {members : List Member} (names : ∀ member ∈ members, ∀ byte ∈ member.1, plain byte = true)
    (reads : ∀ member ∈ members, Text member.2.1 member.2.2) :
    Text (renderObject members) (.object (members.map Member.value)) := by
  intro fuel rest enough _
  obtain ⟨fuel, rfl⟩ : ∃ fewer, fuel = fewer + 1 := Nat.exists_eq_add_one.mpr (by simp [renderObject] at enough; omega)
  have same : renderObject members ++ rest = 0x7b :: (renderMembers members ++ 0x7d :: rest) := by simp [renderObject]
  have size : (renderMembers members).length ≤ fuel := by
    simp only [renderObject, List.length_append, List.length_cons, List.length_nil] at enough
    omega
  rw [same]
  cases members with
  | nil => rfl
  | cons member members =>
    have counted : (member :: members).length ≤ (0x7b :: (renderMembers (member :: members) ++ 0x7d :: rest)).length := by
      have less := renderMembers_length (member :: members)
      simp only [List.length_cons, List.length_append] at less ⊢
      omega
    have each := readMembers_render (List.cons_ne_nil member members) counted names
      (fun entry inside rest => reads entry inside fuel rest ((renderMembers_member inside).trans size)) rest
    obtain ⟨later, begins⟩ : ∃ later, renderMembers (member :: members) ++ 0x7d :: rest = 0x22 :: later := by
      cases members <;> exact ⟨_, rfl⟩
    rw [begins] at each ⊢
    rw [readValue_brace, each]
    rfl

/-- The member is found as its value wherever its text stands. -/
def Member.Reads (member : Member) : Prop :=
  (∀ byte ∈ member.1, plain byte = true) ∧ Text member.2.1 member.2.2

theorem text_members {members : List Member} (each : ∀ member ∈ members, member.Reads) :
    Text (renderObject members) (.object (members.map Member.value)) :=
  text_object (fun member inside => (each member inside).1) fun member inside => (each member inside).2

/-! ## Shapes -/

mutual

/-- The names and the nesting, without what the strings and tokens say. -/
def shape : JsonTree → JsonTree
  | token _ => token []
  | string _ => string []
  | array items => array (shapeItems items)
  | object members => object (shapeMembers members)

def shapeItems : List JsonTree → List JsonTree
  | [] => []
  | item :: items => shape item :: shapeItems items

def shapeMembers : List (Bytes × JsonTree) → List (Bytes × JsonTree)
  | [] => []
  | (name, value) :: members => (name, shape value) :: shapeMembers members

end

theorem shapeItems_eq (items : List JsonTree) : shapeItems items = items.map shape := by
  induction items with
  | nil => rfl
  | cons item items ih => rw [shapeItems, ih, List.map_cons]

def Member.shape (member : Member) : Bytes × JsonTree := (member.1, member.2.2.shape)

theorem shape_members (members : List Member) :
    (object (members.map Member.value)).shape = .object (members.map Member.shape) := by
  rw [shape]
  congr 1
  induction members with
  | nil => rfl
  | cons member members ih => rw [List.map_cons, Member.value, shapeMembers, ih, List.map_cons, Member.shape]

end JsonTree

end Device
