import ApexiDevices.Shared.PythonText

set_option autoImplicit false

/-!
# The SDK configuration as `check_production_security.py` reads it
-/

namespace ApexiDevices.ProductionSecurity

open Device PythonText

def requiredOptions : List String :=
  ["CONFIG_SECURE_BOOT", "CONFIG_SECURE_BOOT_V2_ENABLED", "CONFIG_SECURE_BOOT_BUILD_SIGNED_BINARIES",
    "CONFIG_SECURE_FLASH_ENC_ENABLED", "CONFIG_SECURE_FLASH_ENCRYPTION_MODE_RELEASE",
    "CONFIG_BOOTLOADER_APP_ROLLBACK_ENABLE", "CONFIG_NVS_ENCRYPTION"]

def forbiddenOptions : List String :=
  ["CONFIG_SECURE_BOOT_ALLOW_JTAG", "CONFIG_SECURE_BOOT_ALLOW_ROM_BASIC", "CONFIG_SECURE_BOOT_INSECURE",
    "CONFIG_SECURE_FLASH_UART_BOOTLOADER_ALLOW_DEC", "CONFIG_SECURE_FLASH_UART_BOOTLOADER_ALLOW_ENC",
    "CONFIG_SECURE_FLASH_UART_BOOTLOADER_ALLOW_CACHE"]

def enabledOption (rawLine : Text) : Option Text :=
  let line := strip rawLine
  if "CONFIG_".toList.isPrefixOf line && "=y".toList.isSuffixOf line then some (line.take (line.length - 2)) else none

/-- The options of a file's text, which is read with universal line ends. -/
def enabledOptions (sdkconfig : Text) : List Text := (splitlines (universal sdkconfig)).filterMap enabledOption

/-- The text behind `-D\s*` or `-U\s*`. -/
def argument? (option : String) (flags : Text) : Option Text :=
  if option.toList.isPrefixOf flags then some ((flags.drop option.length).dropWhile isspace) else none

/-- `(?:\s|$)` -/
def wordEnds : Text → Bool
  | [] => true
  | char :: _ => isspace char

/-- `-D\s*NAME=1(?:\s|$)` at this place. -/
def definesHere (name : String) (flags : Text) : Bool :=
  match argument? "-D" flags with
  | none => false
  | some argument =>
    (name ++ "=1").toList.isPrefixOf argument && wordEnds (argument.drop (name ++ "=1").length)

/-- `re.search` of the same behind `(?:^|\s)`. -/
def searchFrom (name : String) : (wordStarts : Bool) → Text → Bool
  | wordStarts, [] => wordStarts && definesHere name []
  | wordStarts, char :: rest =>
    (wordStarts && definesHere name (char :: rest)) || searchFrom name (isspace char) rest

def search (name : String) (flags : Text) : Bool := searchFrom name true flags

structure Classification where
  productionEligible : Bool
  encryptedQueueQualified : Bool
  sdkSecurityReady : Bool
  externalSignatureRequired : Bool
  productionGateEnabled : Bool
  missingOptions : List String
  insecureOptions : List String

def classify (sdkconfig buildFlags : Text) (externalSigning : Bool) : Classification :=
  let enabled := enabledOptions sdkconfig
  let missing := requiredOptions.filter fun option => !enabled.contains option.toList
  -- Unsigned inputs are built on purpose where they are signed elsewhere.
  let missing :=
    if externalSigning then missing.filter fun option => option != "CONFIG_SECURE_BOOT_BUILD_SIGNED_BINARIES" else missing
  let insecure := forbiddenOptions.filter fun option => enabled.contains option.toList
  let gate := search "APEXI_PRODUCTION_SECURITY_REQUIRED" buildFlags
  let qualified := search "APEXI_ENCRYPTED_QUEUE_QUALIFIED" buildFlags
  { productionEligible := !externalSigning && missing.isEmpty && insecure.isEmpty && gate && qualified
    encryptedQueueQualified := qualified
    sdkSecurityReady := missing.isEmpty && insecure.isEmpty && gate
    externalSignatureRequired := externalSigning
    productionGateEnabled := gate
    missingOptions := missing
    insecureOptions := insecure }

theorem enabledOptions_cons {line sdkconfig : Text} (whole : ∀ char ∈ line, endsLine char = false) :
    enabledOptions (line ++ '\n' :: sdkconfig) = (enabledOption line).toList ++ enabledOptions sdkconfig := by
  rw [enabledOptions, enabledOptions, splitlines_universal, splitlines_universal, splitlines_cons whole]
  cases enables : enabledOption line with
  | none =>
    rw [List.filterMap_cons_none enables]
    rfl
  | some option =>
    rw [List.filterMap_cons_some enables]
    rfl

/-- The verdict looks no further than which options are enabled and whether the pattern is found. -/
theorem sdkSecurityReady_congr {sdkconfig other flags more : Text} {externalSigning : Bool}
    (same : ∀ option, option ∈ enabledOptions other ↔ option ∈ enabledOptions sdkconfig)
    (found : search "APEXI_PRODUCTION_SECURITY_REQUIRED" more = true)
    (ready : (classify sdkconfig flags externalSigning).sdkSecurityReady = true) :
    (classify other more externalSigning).sdkSecurityReady = true := by
  have known (option : Text) : (enabledOptions other).contains option = (enabledOptions sdkconfig).contains option := by
    rw [Bool.eq_iff_iff, List.contains_iff_mem, List.contains_iff_mem, same]
  rw [classify] at ready ⊢
  dsimp only at ready ⊢
  simp only [known]
  rw [Bool.and_eq_true] at ready ⊢
  exact ⟨ready.1, found⟩

/-- A line that assigns an option or leaves it unset, white space around it aside. -/
def mentions (option line : Text) : Bool :=
  (option ++ ['=']).isPrefixOf (strip line) || strip line == "# ".toList ++ option ++ " is not set".toList

/-- Every enabled option is mentioned by one line. -/
def OneLineEach (sdkconfig : Text) : Prop :=
  ∀ option ∈ enabledOptions sdkconfig, (splitlines sdkconfig).countP (mentions option) = 1

theorem enabledOption_some {line option : Text} (enables : enabledOption line = some option) :
    strip line = option ++ "=y".toList ∧ ∃ name, option = "CONFIG_".toList ++ name := by
  rw [enabledOption] at enables
  split at enables
  case isFalse => cases enables
  case isTrue shape =>
    rw [Bool.and_eq_true, List.isPrefixOf_iff_prefix, List.isSuffixOf_iff_suffix] at shape
    obtain ⟨⟨name, start⟩, ⟨front, finish⟩⟩ := shape
    have same : option = front := by
      rw [← Option.some.inj enables, ← finish, List.length_append]
      exact List.take_left' (by simp)
    subst same
    refine ⟨finish.symm, ?_⟩
    obtain ⟨rest, same, -⟩ | ⟨overlap, whole, rest⟩ := List.append_eq_append_iff.mp (start.trans finish.symm)
    · exact ⟨rest, same⟩
    · cases overlap with
      | nil => exact ⟨[], by rw [whole, List.append_nil, List.append_nil]⟩
      | cons char more =>
        -- the two texts do not overlap: there is no `=` in front
        have first : char = '=' := (List.cons.inj (rest.trans (List.cons_append ..))).1.symm
        have inside : char ∈ "CONFIG_".toList := by rw [whole]; simp
        rw [first] at inside
        exact absurd inside (by decide)

theorem mentions_of_enabled {line option : Text} (enables : enabledOption line = some option) :
    mentions option line = true := by
  rw [mentions, (enabledOption_some enables).1, Bool.or_eq_true, List.isPrefixOf_iff_prefix]
  exact .inl ⟨['y'], by rw [List.append_assoc]; rfl⟩

inductive Directive where
  | define (value : Text)
  | undefine
  deriving DecidableEq

/-- A `-D` or `-U` of the name at this place; a `-D` without a value defines 1. -/
def directive? (name : String) (flags : Text) : Option Directive :=
  match argument? "-D" flags with
  | some argument =>
    if name.toList.isPrefixOf argument then
      match argument.drop name.length with
      | [] => some (.define ['1'])
      | char :: rest =>
        if char = '=' then some (.define (rest.takeWhile fun char => !isspace char))
        else if isspace char then some (.define ['1'])
        else none
    else none
  | none =>
    match argument? "-U" flags with
    | some argument =>
      if name.toList.isPrefixOf argument && wordEnds (argument.drop name.length) then some .undefine else none
    | none => none

def directivesFrom (name : String) : (wordStarts : Bool) → Text → List Directive
  | _, [] => []
  | wordStarts, char :: rest =>
    (if wordStarts then (directive? name (char :: rest)).toList else []) ++ directivesFrom name (isspace char) rest

def quotes (char : Char) : Bool := char == '"' || char == '\''

theorem isspace_of_quotes {char : Char} (quote : quotes char = true) : isspace char = false := by
  rw [quotes, Bool.or_eq_true, beq_iff_eq, beq_iff_eq] at quote
  obtain rfl | rfl := quote <;> decide

/-- A shell takes quotation marks away, in front of a directive, inside it and around its value. -/
def unquoted (flags : Text) : Text := flags.filter fun char => !quotes char

def directives (name : String) (flags : Text) : List Directive := directivesFrom name true (unquoted flags)

theorem directivesFrom_word {name : String} {word rest : Text} (shown : ∀ char ∈ word, isspace char = false) :
    directivesFrom name false (word ++ ' ' :: rest) = directivesFrom name true rest := by
  induction word with
  | nil => rfl
  | cons char word ih =>
    obtain ⟨inside, others⟩ := List.forall_mem_cons.mp shown
    rw [List.cons_append, directivesFrom, if_neg Bool.false_ne_true, inside]
    exact ih others

theorem directive_of_definesHere {name : String} {flags : Text} (here : definesHere name flags = true) :
    directive? name flags = some (.define ['1']) := by
  rw [definesHere] at here
  cases found : argument? "-D" flags with
  | none =>
    rw [found] at here
    cases here
  | some argument =>
    rw [found] at here
    dsimp only at here
    rw [Bool.and_eq_true, List.isPrefixOf_iff_prefix] at here
    obtain ⟨⟨rest, whole⟩, ends⟩ := here
    have shape : argument = name.toList ++ '=' :: '1' :: rest := by
      rw [← whole, String.toList_append, List.append_assoc]
      rfl
    have size : (name ++ "=1").length = (name.toList ++ ['=', '1']).length := by
      rw [String.length_append, List.length_append, String.length_toList]
      rfl
    have behind : argument.drop (name ++ "=1").length = rest := by
      rw [shape, size, show name.toList ++ '=' :: '1' :: rest = (name.toList ++ ['=', '1']) ++ rest by simp, List.drop_left]
    have value : (('1' :: rest).takeWhile fun char => !isspace char) = ['1'] := by
      rw [behind] at ends
      have one : isspace '1' = false := by decide
      cases rest with
      | nil => simp [one]
      | cons char more =>
        have space : isspace char = true := ends
        simp [one, space]
    rw [directive?, found]
    dsimp only
    rw [if_pos (by rw [List.isPrefixOf_iff_prefix, shape]; exact List.prefix_append _ _), shape, ← String.length_toList,
      List.drop_left]
    dsimp only
    rw [if_pos rfl, value]

/-- A name as the pattern has it, which quotation marks do not break. -/
def Unbroken (name : String) : Prop := ∀ char ∈ (name ++ "=1").toList, isspace char = false ∧ quotes char = false

theorem definesHere_iff {name : String} {flags : Text} (plain : Unbroken name) :
    definesHere name flags = true ↔ ∃ blanks rest, (∀ char ∈ blanks, isspace char = true) ∧ wordEnds rest = true ∧
      flags = "-D".toList ++ (blanks ++ ((name ++ "=1").toList ++ rest)) := by
  have size : (name ++ "=1").length = (name ++ "=1").toList.length := String.length_toList.symm
  rw [definesHere, argument?]
  constructor
  · intro here
    split at here
    case h_1 => cases here
    rename_i argument found
    split at found
    case isFalse => cases found
    rename_i option
    obtain ⟨tail, rfl⟩ := List.isPrefixOf_iff_prefix.mp option
    rw [Bool.and_eq_true, List.isPrefixOf_iff_prefix] at here
    obtain ⟨⟨rest, whole⟩, ends⟩ := here
    have behind : tail.dropWhile isspace = argument := Option.some.inj found
    rw [← whole, size, List.drop_left] at ends
    refine ⟨tail.takeWhile isspace, rest, fun char member => List.mem_takeWhile_imp member, ends, ?_⟩
    rw [whole, ← behind, List.takeWhile_append_dropWhile]
  · rintro ⟨blanks, rest, spaces, ends, rfl⟩
    have argument : ((name ++ "=1").toList ++ rest).dropWhile isspace = (name ++ "=1").toList ++ rest := by
      cases value : (name ++ "=1").toList with
      | nil => simp at value
      | cons char more =>
        have shown := (plain char (by rw [value]; exact List.mem_cons_self)).1
        rw [List.cons_append, List.dropWhile_cons_of_neg (by simp [shown])]
    rw [if_pos (List.isPrefixOf_iff_prefix.mpr (List.prefix_append _ _)), show "-D".length = "-D".toList.length from rfl,
      List.drop_left, List.dropWhile_append_of_pos spaces, argument]
    dsimp only
    rw [Bool.and_eq_true, List.isPrefixOf_iff_prefix, size, List.drop_left]
    exact ⟨List.prefix_append _ _, ends⟩

theorem definesHere_unquoted {name : String} {flags : Text} (plain : Unbroken name) (here : definesHere name flags = true) :
    definesHere name (unquoted flags) = true := by
  obtain ⟨blanks, rest, spaces, ends, rfl⟩ := (definesHere_iff plain).mp here
  have blank {char : Char} (space : isspace char = true) : quotes char = false := by
    by_contra quote
    rw [isspace_of_quotes (Bool.not_eq_false _ ▸ quote)] at space
    cases space
  refine (definesHere_iff plain).mpr ⟨blanks, unquoted rest, spaces, ?_, ?_⟩
  · cases rest with
    | nil => rfl
    | cons char more =>
      have space : isspace char = true := ends
      rw [unquoted, List.filter_cons_of_pos (by simp [blank space])]
      exact space
  · have kept {part : Text} (none : ∀ char ∈ part, quotes char = false) : part.filter (fun char => !quotes char) = part :=
      List.filter_eq_self.mpr fun char member => by simp [none char member]
    rw [unquoted, List.filter_append, List.filter_append, List.filter_append, @kept "-D".toList (by decide),
      kept fun char member => blank (spaces char member), kept fun char member => (plain char member).2, unquoted]

/-- What the search finds is there as well where quotation marks are taken away. -/
theorem searchFrom_unquoted {name : String} {flags : Text} {wordStarts : Bool} (plain : Unbroken name)
    (found : searchFrom name wordStarts flags = true) : searchFrom name wordStarts (unquoted flags) = true := by
  have weaken {rest : Text} (inside : searchFrom name false rest = true) (starts : Bool) :
      searchFrom name starts rest = true := by
    cases rest with
    | nil => cases inside
    | cons char rest =>
      rw [searchFrom, Bool.false_and, Bool.false_or] at inside
      rw [searchFrom, inside, Bool.or_true]
  induction flags generalizing wordStarts with
  | nil => exact found
  | cons char rest ih =>
    rw [searchFrom, Bool.or_eq_true, Bool.and_eq_true] at found
    by_cases quote : quotes char = true
    · -- a quotation mark is no place where the pattern matches, and no white space
      have shown := isspace_of_quotes quote
      obtain ⟨-, here⟩ | later := found
      · obtain ⟨blanks, more, -, -, same⟩ := (definesHere_iff plain).mp here
        rw [(List.cons.inj same).1] at quote
        cases quote
      · rw [shown] at later
        rw [unquoted, List.filter_cons_of_neg (by simp [quote])]
        exact weaken (ih later) wordStarts
    · have kept : unquoted (char :: rest) = char :: unquoted rest := List.filter_cons_of_pos (by simpa using quote)
      rw [kept, searchFrom, Bool.or_eq_true, Bool.and_eq_true]
      obtain ⟨starts, here⟩ | later := found
      · exact .inl ⟨starts, kept ▸ definesHere_unquoted plain here⟩
      · exact .inr (ih later)

theorem search_directive {name : String} {flags : Text} (plain : Unbroken name) (found : search name flags = true) :
    .define ['1'] ∈ directives name flags := by
  have each (wordStarts : Bool) (rest : Text) (found : searchFrom name wordStarts rest = true) :
      .define ['1'] ∈ directivesFrom name wordStarts rest := by
    induction rest generalizing wordStarts with
    | nil =>
      rw [searchFrom, Bool.and_eq_true] at found
      cases found.2
    | cons char rest ih =>
      rw [searchFrom, Bool.or_eq_true, Bool.and_eq_true] at found
      rw [directivesFrom, List.mem_append]
      obtain ⟨starts, here⟩ | later := found
      · rw [if_pos starts, directive_of_definesHere here]
        exact .inl (List.mem_singleton_self _)
      · exact .inr (ih _ later)
  exact each true _ (searchFrom_unquoted plain found)

end ApexiDevices.ProductionSecurity
