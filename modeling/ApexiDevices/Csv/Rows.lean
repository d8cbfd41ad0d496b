import ApexiDevices.Csv.CsvLogger

set_option autoImplicit false

/-!
# Rows on the card

The logger remembers a torn row in RAM only. A row stays whole as long as every
file it is appended to is empty, or starts with the header and has no torn row
that the logger does not remember.
-/

namespace ApexiDevices.CsvLogger

open Device

variable {ids : List Field}

/-- The header as a line: `println` ends it with a carriage return too. -/
def headerLine (ids : List Field) : Bytes := csvHeader ids ++ [13]

/-- Each logged row is a line of its own, below the one header, which is the first line. -/
def Recorded (header : Bytes) (lines : Lines) (logged : List Bytes) : Prop :=
  ∃ rows, lines.complete = header :: rows ∧ header ∉ rows ∧ logged.Sublist rows

structure Recorder where
  logger : CsvLogger := {}
  card : Card := fun _ => none
  -- the rows `logRow` returned true for, by file: no code reads them
  logged : Bytes → List Bytes := fun _ => []

def Survive (header : Bytes) (recorder : Recorder) : Prop :=
  ∀ name, recorder.logged name ≠ [] →
    Recorded header (Lines.of (recorder.card.content name)) (recorder.logged name)

inductive Action (ids : List Field) where
  | logRow (sample : Sample ids)
  | flushIfNeeded (uptimeMs : UInt32)
  | begin (mounted : Bool)
  | disable
  | reboot

def record (logged : Bytes → List Bytes) (sample : Sample ids) (written : Bool) : Bytes → List Bytes :=
  if written then
    Function.update logged (fileName sample.dateStamp) (logged (fileName sample.dateStamp) ++ [sample.row])
  else logged

inductive Recorder.Step (recorder : Recorder) : Action ids → Recorder → Prop
  | logRow {sample : Sample ids} {written : Bool} {logger : CsvLogger} {card : Card}
      (run : Card.device.Runs (recorder.logger.logRow sample) recorder.card (written, logger) card) :
      Step recorder (.logRow sample) ⟨logger, card, record recorder.logged sample written⟩
  | flushIfNeeded {uptimeMs : UInt32} {logger : CsvLogger} {card : Card}
      (run : Card.device.Runs (recorder.logger.flushIfNeeded uptimeMs) recorder.card logger card) :
      Step recorder (.flushIfNeeded uptimeMs) { recorder with logger, card }
  | begin (mounted : Bool) :
      Step recorder (.begin mounted) { recorder with logger := recorder.logger.begin mounted }
  | disable {logger : CsvLogger} {card : Card}
      (run : Card.device.Runs recorder.logger.disable recorder.card logger card) :
      Step recorder .disable { recorder with logger, card }
  | reboot : Step recorder .reboot { recorder with logger := {} }

inductive Reached (allowed : Recorder → Action ids → Prop) : Recorder → Prop
  | start : Reached allowed {}
  | step {recorder next : Recorder} {action : Action ids} (earlier : Reached allowed recorder)
      (ok : allowed recorder action) (taken : recorder.Step action next) : Reached allowed next

/-- The file is empty, or its header is whole and a torn row in it is remembered. -/
def Appendable (header : Bytes) (lines : Lines) (content : Bytes) (remembered : Bool) : Prop :=
  content = [] ∨ (lines.complete.head? = some header ∧ (lines.tail = [] ∨ remembered = true))

instance (header : Bytes) (lines : Lines) (content : Bytes) (remembered : Bool) :
    Decidable (Appendable header lines content remembered) :=
  inferInstanceAs (Decidable (_ ∨ _ ∧ (_ ∨ _)))

/-- Every row goes to an appendable file. -/
def Remembered (ids : List Field) (recorder : Recorder) : Action ids → Prop
  | .logRow sample =>
    let content := recorder.card.content (fileName sample.dateStamp)
    recorder.logger.ready = true →
      Appendable (headerLine ids) (Lines.of content) content recorder.logger.incompleteRow
  | _ => True

/-- A file with its header: no other line and no torn tail can be taken for one. -/
def Below (header : Bytes) (lines : Lines) (logged : List Bytes) : Prop :=
  ∃ rows, lines.complete = header :: rows ∧ (∀ row ∈ rows, (13 : UInt8) ∉ row) ∧ (13 : UInt8) ∉ lines.tail ∧
    logged.Sublist rows

def Kept (header : Bytes) (lines : Lines) (logged : List Bytes) : Prop :=
  Below header lines logged ∨ (logged = [] ∧ lines.complete.head? ≠ some header)

section Files

variable {header : Bytes} {lines : Lines} {logged : List Bytes} {content bytes : Bytes}

theorem Kept.below (kept : Kept header lines logged) (first : lines.complete.head? = some header) :
    Below header lines logged :=
  kept.resolve_right fun bare => bare.2 first

theorem Kept.unlogged (kept : Kept header lines logged) (bare : lines.complete = []) : logged = [] := by
  rcases kept with ⟨rows, complete, -⟩ | ⟨nothing, -⟩
  · exact absurd (bare.symm.trans complete) (List.cons_ne_nil _ _).symm
  · exact nothing

theorem Below.head (below : Below header lines logged) : lines.complete.head? = some header := by
  obtain ⟨rows, complete, -⟩ := below
  rw [complete]
  rfl

theorem Below.recorded (below : Below header lines logged) (marked : (13 : UInt8) ∈ header) :
    Recorded header lines logged := by
  obtain ⟨rows, complete, unmarked, -, kept⟩ := below
  exact ⟨rows, complete, fun member => unmarked header member marked, kept⟩

theorem Below.within (below : Below header (Lines.of content) logged) (plain : Plain bytes) :
    Below header (Lines.of (content ++ bytes)) logged := by
  obtain ⟨rows, complete, unmarked, tail, kept⟩ := below
  rw [Lines.of_append, Lines.append_within _ plain.no_feed]
  refine ⟨rows, complete, unmarked, ?_, kept⟩
  intro member
  rcases List.mem_append.mp member with before | new
  · exact tail before
  · exact plain.no_return new

theorem Below.separated (below : Below header (Lines.of content) logged) :
    Below header (Lines.of (content ++ [10])) logged := by
  obtain ⟨rows, complete, unmarked, tail, kept⟩ := below
  rw [Lines.of_append, Lines.append_newline]
  refine ⟨rows ++ [(Lines.of content).tail], by rw [complete]; rfl, ?_, by simp,
    kept.trans (List.sublist_append_left _ _)⟩
  intro row member
  rcases List.mem_append.mp member with before | new
  · exact unmarked row before
  · rw [List.mem_singleton.mp new]
    exact tail

theorem Below.row (below : Below header (Lines.of content) logged) (fresh : (Lines.of content).tail = [])
    (plain : Plain bytes) : Below header (Lines.of (content ++ (bytes ++ [10]))) (logged ++ [bytes]) := by
  obtain ⟨rows, complete, unmarked, -, kept⟩ := below
  rw [Lines.of_append, Lines.append_line _ plain.no_feed, fresh, List.nil_append]
  refine ⟨rows ++ [bytes], by rw [complete]; rfl, ?_, by simp, kept.append (List.Sublist.refl _)⟩
  intro row member
  rcases List.mem_append.mp member with before | new
  · exact unmarked row before
  · rw [List.mem_singleton.mp new]
    exact plain.no_return

theorem Below.torn (below : Below header (Lines.of content) logged) (plain : Plain bytes) {written : Nat}
    (short : written ≤ bytes.length) :
    Below header (Lines.of (content ++ (bytes ++ [10]).take written)) logged := by
  rw [List.take_append_of_le_length short]
  exact below.within (plain.take written)

theorem header_below (plain : Plain bytes) :
    Below (bytes ++ [13]) (Lines.of (bytes ++ ascii "\r\n")) [] ∧
      (Lines.of (bytes ++ ascii "\r\n")).tail = [] := by
  have ending : bytes ++ ascii "\r\n" = (bytes ++ [13]) ++ [10] := by simp [ascii]
  have within : (10 : UInt8) ∉ bytes ++ [13] := by simpa using plain.no_feed
  rw [ending, Lines.of, Lines.append_line _ within]
  exact ⟨⟨[], rfl, by simp, by simp, List.Sublist.refl _⟩, rfl⟩

theorem partial_header (plain : Plain bytes) {line ending : Nat} (short : line ≤ bytes.length)
    (two : ending ≤ 2) (partly : line + ending ≠ bytes.length + 2) :
    (Lines.of (bytes.take line ++ (ascii "\r\n").take ending)).complete.head? ≠ some (bytes ++ [13]) := by
  have cut : Plain (bytes.take line) := plain.take line
  have endings : ending = 0 ∨ ending = 1 ∨ ending = 2 := by omega
  rcases endings with rfl | rfl | rfl
  · rw [List.take_zero, List.append_nil, Lines.of, Lines.append_within _ cut.no_feed]
    simp
  · have within : (10 : UInt8) ∉ bytes.take line ++ [13] := by simpa using cut.no_feed
    change (Lines.of (bytes.take line ++ [13])).complete.head? ≠ _
    rw [Lines.of, Lines.append_within _ within]
    simp
  · have ending : bytes.take line ++ (ascii "\r\n").take 2 = (bytes.take line ++ [13]) ++ [10] := by simp [ascii]
    have within : (10 : UInt8) ∉ bytes.take line ++ [13] := by simpa using cut.no_feed
    rw [ending, Lines.of, Lines.append_line _ within]
    intro same
    have lengths := congrArg (fun found => (found.getD []).length) same
    simp at lengths
    omega

end Files

structure Sound (header : Bytes) (logger : CsvLogger) (card : Card) (logged : Bytes → List Bytes) : Prop where
  files : ∀ name, Kept header (Lines.of (card.content name)) (logged name)
  opened : ∀ name, logger.file = some name →
    logger.currentFileName = name ∧ (Lines.of (card.content name)).complete.head? = some header

structure Writable (header : Bytes) (logger : CsvLogger) (card : Card) (name : Bytes) : Prop where
  file : logger.file = some name
  first : (Lines.of (card.content name)).complete.head? = some header
  remembered : (Lines.of (card.content name)).tail = [] ∨ logger.incompleteRow = true

section Steps

variable {header name bytes : Bytes} {logger next : CsvLogger} {card : Card} {logged : Bytes → List Bytes}
  {sample : Sample ids}

theorem Sound.below (sound : Sound header logger card logged) (writable : Writable header logger card name) :
    Below header (Lines.of (card.content name)) (logged name) :=
  (sound.files name).below writable.first

/-- What the logger remembers besides its open file does not matter to the files. -/
theorem Sound.retain (sound : Sound header logger card logged)
    (same : next.file = none ∨ (next.file = logger.file ∧ next.currentFileName = logger.currentFileName)) :
    Sound header next card logged where
  files := sound.files
  opened name file := by
    rcases same with closed | ⟨same, current⟩
    · cases closed.symm.trans file
    · rw [current]
      exact sound.opened name (same.symm.trans file)

theorem files_set (files : ∀ other, Kept header (Lines.of (card.content other)) (logged other)) (name : Bytes)
    {file : Option Bytes} {rows : List Bytes} (kept : Kept header (Lines.of (file.getD [])) rows) (other : Bytes) :
    Kept header (Lines.of ((card.set name file).content other)) (Function.update logged name rows other) := by
  by_cases same : other = name
  · subst same
    simpa [Card.content, Card.set] using kept
  · rw [card.content_set_of_ne file same, Function.update_of_ne same]
    exact files other

theorem Sound.append (sound : Sound header logger card logged) {rows : List Bytes}
    (below : Below header (Lines.of (card.content name ++ bytes)) rows)
    (same : next.file = logger.file ∧ next.currentFileName = logger.currentFileName) :
    Sound header next (card.set name (some (card.content name ++ bytes))) (Function.update logged name rows) where
  files := files_set sound.files name (.inl below)
  opened other file := by
    rw [same.1] at file
    rw [same.2]
    refine ⟨(sound.opened other file).1, ?_⟩
    by_cases here : other = name
    · rw [here, Card.content_set_self]
      exact below.head
    · rw [card.content_set_of_ne _ here]
      exact (sound.opened other file).2

theorem Sound.append_unlogged (sound : Sound header logger card logged)
    (below : Below header (Lines.of (card.content name ++ bytes)) (logged name))
    (same : next.file = logger.file ∧ next.currentFileName = logger.currentFileName) :
    Sound header next (card.set name (some (card.content name ++ bytes))) logged := by
  have kept := sound.append below same
  rwa [Function.update_eq_self] at kept

theorem separate_sound (sound : Sound header logger card logged) (writable : Writable header logger card name) :
    Card.after logger.separate (fun separated last =>
      Sound header logger last logged ∧ Writable header logger last name ∧
        (separated = true → (Lines.of (last.content name)).tail = [])) card := by
  unfold separate
  split
  · rename_i torn
    simp only [print, writable.file]
    apply Card.after_print.mpr
    intro written fits
    rw [Card.after_pure]
    have counts : written = 0 ∨ written = 1 := by
      have two : written ≤ 1 := fits
      omega
    have below := sound.below writable
    rcases counts with rfl | rfl
    · have unchanged : Below header (Lines.of (card.content name ++ [])) (logged name) := by simpa using below
      have same : Sound header logger _ logged := sound.append_unlogged unchanged ⟨rfl, rfl⟩
      exact ⟨by simpa using same, ⟨writable.file, by simpa using writable.first, .inr torn⟩, by simp⟩
    · have ended : (Lines.of (card.content name ++ [10])).tail = [] := by rw [Lines.of_append, Lines.append_newline]
      refine ⟨sound.append_unlogged below.separated ⟨rfl, rfl⟩, ⟨writable.file, ?_, ?_⟩, fun _ => ?_⟩
      · rw [Card.content_set_self]
        exact below.separated.head
      · rw [Card.content_set_self]
        exact .inl ended
      · rw [Card.content_set_self]
        exact ended
  · rename_i whole
    refine Card.after_pure.mpr ⟨sound, writable, fun _ => ?_⟩
    exact writable.remembered.resolve_right whole

theorem writeRow_sound (sound : Sound header logger card logged)
    (writable : Writable header logger card (fileName sample.dateStamp)) :
    Card.after (logger.writeRow sample)
      (fun answer last => Sound header answer.2 last (record logged sample answer.1)) card := by
  unfold writeRow
  refine Model.wp_then (separate_sound sound writable) (fun _ same => same) ?_
  rintro separated last ⟨sound, writable, fresh⟩
  split
  · rename_i whole
    have below := sound.below writable
    simp only [print, writable.file]
    apply Card.after_print.mpr
    intro written fits
    have size : (sample.row ++ ascii "\n").length = sample.row.length + 1 := by simp [ascii]
    split
    · rename_i all
      rw [Card.after_pure, all, List.take_length]
      exact sound.append (below.row (fresh whole) sample.row_plain) ⟨writable.file.symm ▸ rfl, rfl⟩
    · have short : written ≤ sample.row.length := by omega
      rw [Card.after_pure]
      exact sound.append_unlogged (below.torn sample.row_plain short) ⟨writable.file.symm ▸ rfl, rfl⟩
  · exact Card.after_pure.mpr (sound.retain (.inr ⟨rfl, rfl⟩))

theorem writeHeaderIfNeeded_spec (empty : card.content name = []) (file : logger.file = some name)
    (current : logger.currentFileName = name) (configured : sample.sensors.map SensorSnapshot.id = ids) :
    Card.after (logger.writeHeaderIfNeeded sample.sensors)
      (fun answer last => ∃ bytes, last = card.set name (some bytes) ∧ answer.2.file = some name ∧
        answer.2.currentFileName = name ∧
        if answer.1 then Below (headerLine ids) (Lines.of bytes) [] ∧ (Lines.of bytes).tail = []
        else (Lines.of bytes).complete.head? ≠ some (headerLine ids)) card := by
  unfold writeHeaderIfNeeded
  simp only [file, configured]
  apply Card.after_println.mpr
  intro line short ending two
  rw [empty, List.nil_append]
  split
  · rename_i partly
    exact Card.after_pure.mpr ⟨_, rfl, rfl, current, partial_header (csvHeader_plain ids) short two partly⟩
  · rename_i whole
    have counts : line = (csvHeader ids).length ∧ ending = 2 := by omega
    refine Card.after_flush.mpr (Card.after_pure.mpr ⟨_, rfl, rfl, current, ?_⟩)
    rw [counts.1, counts.2, List.take_length]
    exact header_below (csvHeader_plain ids)

theorem startFile_sound (files : ∀ other, Kept (headerLine ids) (Lines.of (card.content other)) (logged other))
    (empty : card.content name = []) (file : logger.file = some name) (current : logger.currentFileName = name) :
    Card.after (logger.startFile name sample.sensors)
      (fun answer last => Sound (headerLine ids) answer.2 last logged ∧
        (answer.1 = true → Writable (headerLine ids) answer.2 last name)) card := by
  have unlogged : logged name = [] := (files name).unlogged (by rw [empty]; rfl)
  have rewritten (content : Option Bytes) (kept : Kept (headerLine ids) (Lines.of (content.getD [])) [])
      (other : Bytes) : Kept (headerLine ids) (Lines.of ((card.set name content).content other)) (logged other) := by
    have updated := files_set files name kept other
    rwa [← unlogged, Function.update_eq_self] at updated
  unfold startFile
  refine Model.wp_then (writeHeaderIfNeeded_spec empty file current sample.configured) (fun _ same => same) ?_
  rintro ⟨_ | _, next⟩ last ⟨bytes, rfl, file, current, header⟩
  · apply Card.after_remove.mpr
    rw [Card.set_set]
    constructor
    · refine Card.after_pure.mpr ⟨⟨rewritten none (.inr ⟨rfl, by simp⟩), fun _ opened => by cases opened⟩, ?_⟩
      exact fun impossible => by cases impossible
    · refine Card.after_pure.mpr ⟨⟨rewritten _ (.inr ⟨rfl, header⟩), fun _ opened => by cases opened⟩, ?_⟩
      exact fun impossible => by cases impossible
  · obtain ⟨below, whole⟩ := header
    have first : (Lines.of ((card.set name (some bytes)).content name)).complete.head? = some (headerLine ids) := by
      rw [Card.content_set_self]
      exact below.head
    refine Card.after_pure.mpr ⟨⟨rewritten _ (.inl below), fun other opened => ?_⟩, fun _ => ⟨file, first, .inl ?_⟩⟩
    · cases file.symm.trans opened
      exact ⟨current, first⟩
    · rw [Card.content_set_self]
      exact whole

theorem flush_after {α : Type} {rest : Unit → OnCard α} {post : α → Card → Prop} :
    Card.after (logger.flush >>= rest) post card ↔ Card.after (rest ()) post card := by
  unfold flush
  split
  · rfl
  · exact Card.after_flush

theorem ensureFileOpen_sound (sound : Sound (headerLine ids) logger card logged)
    (appendable : Appendable (headerLine ids) (Lines.of (card.content (fileName sample.dateStamp)))
      (card.content (fileName sample.dateStamp)) logger.incompleteRow) :
    Card.after (logger.ensureFileOpen sample.dateStamp sample.sensors)
      (fun answer last => Sound (headerLine ids) answer.2 last logged ∧
        (answer.1 = true → Writable (headerLine ids) answer.2 last (fileName sample.dateStamp))) card := by
  unfold ensureFileOpen
  dsimp only
  split
  · rename_i here
    obtain ⟨name, file⟩ := Option.isSome_iff_exists.mp here.1
    obtain ⟨current, first⟩ := sound.opened name file
    have same : name = fileName sample.dateStamp := current.symm.trans here.2
    subst same
    refine Card.after_pure.mpr ⟨sound, fun _ => ⟨file, first, ?_⟩⟩
    rcases appendable with empty | ⟨-, remembered⟩
    · rw [empty] at first
      cases first
    · exact remembered
  -- another day, or no file is open yet
  · apply flush_after.mpr
    apply Card.after_exists.mpr
    apply Card.after_openAppend.mpr
    have shut (after : CsvLogger) (closed : after.file = none) : Sound (headerLine ids) after card logged :=
      sound.retain (.inl closed)
    refine ⟨?_, Card.after_pure.mpr ⟨shut _ rfl, fun impossible => by cases impossible⟩⟩
    rintro (_ | _)
    · refine Card.after_pure.mpr ⟨?_, fun impossible => by cases impossible⟩
      exact ⟨by simpa using sound.files, fun _ opened => by cases opened⟩
    · apply Card.after_size.mpr
      rw [Card.content_created]
      split
      · rename_i fresh
        have empty : card.content (fileName sample.dateStamp) = [] := by
          rcases Bool.or_eq_true_iff.mp fresh with absent | none
          · have missing : card (fileName sample.dateStamp) = none := by simpa using absent
            rw [Card.content, missing]
            rfl
          · simpa using none
        exact startFile_sound (by simpa using sound.files) (by simpa using empty) rfl rfl
      · rename_i grown
        have nonempty : card.content (fileName sample.dateStamp) ≠ [] := by
          intro empty
          exact grown (by simp [empty])
        obtain ⟨first, remembered⟩ := appendable.resolve_left nonempty
        refine Card.after_pure.mpr ⟨⟨by simpa using sound.files, ?_⟩, fun _ => ⟨rfl, by simpa using first, by simpa using remembered⟩⟩
        intro other opened
        cases opened
        exact ⟨rfl, by simpa using first⟩

theorem logRow_sound (sound : Sound (headerLine ids) logger card logged)
    (appendable : logger.ready = true → Appendable (headerLine ids)
      (Lines.of (card.content (fileName sample.dateStamp))) (card.content (fileName sample.dateStamp))
      logger.incompleteRow) :
    Card.after (logger.logRow sample)
      (fun answer last => Sound (headerLine ids) answer.2 last (record logged sample answer.1)) card := by
  unfold logRow
  split
  · rename_i ready
    refine Model.wp_then (ensureFileOpen_sound sound (appendable ready)) (fun _ same => same) ?_
    rintro ⟨opened, next⟩ last ⟨kept, writable⟩
    cases opened with
    | false => exact Card.after_pure.mpr kept
    | true => exact writeRow_sound kept (writable rfl)
  · refine Card.after_pure.mpr (sound.retain (.inr ?_))
    split <;> exact ⟨rfl, rfl⟩

theorem flushIfNeeded_sound (sound : Sound header logger card logged) (uptimeMs : UInt32) :
    Card.after (logger.flushIfNeeded uptimeMs) (fun next last => Sound header next last logged) card := by
  unfold flushIfNeeded
  split
  · exact flush_after.mpr (Card.after_pure.mpr (sound.retain (.inr ⟨rfl, rfl⟩)))
  · exact Card.after_pure.mpr sound

theorem disable_sound (sound : Sound header logger card logged) :
    Card.after logger.disable (fun next last => Sound header next last logged) card := by
  unfold disable
  exact flush_after.mpr (Card.after_pure.mpr (sound.retain (.inl rfl)))

end Steps

theorem step_sound {recorder next : Recorder} {action : Action ids}
    (sound : Sound (headerLine ids) recorder.logger recorder.card recorder.logged)
    (remembered : Remembered ids recorder action) (taken : recorder.Step action next) :
    Sound (headerLine ids) next.logger next.card next.logged := by
  cases taken with
  | logRow run =>
    have kept := Model.wp_runs (logRow_sound sound remembered) run
    exact kept
  | flushIfNeeded run =>
    have kept := Model.wp_runs (flushIfNeeded_sound sound _) run
    exact kept
  | begin mounted => exact sound.retain (.inr ⟨rfl, rfl⟩)
  | disable run =>
    have kept := Model.wp_runs (disable_sound sound) run
    exact kept
  | reboot => exact sound.retain (.inl rfl)

theorem reached_sound {recorder : Recorder} (reached : Reached (Remembered ids) recorder) :
    Sound (headerLine ids) recorder.logger recorder.card recorder.logged := by
  induction reached with
  | start => exact ⟨fun _ => .inr ⟨rfl, by simp [Card.content]⟩, fun _ opened => by cases opened⟩
  | step earlier ok taken ih => exact step_sound ih ok taken

/-- Every logged row is whole in every file, in every run whose files stay appendable. -/
theorem rows_survive (ids : List Field) (recorder : Recorder) (reached : Reached (Remembered ids) recorder) :
    Survive (headerLine ids) recorder := by
  intro name logged
  rcases (reached_sound reached).files name with below | ⟨nothing, -⟩
  · exact below.recorded (by simp [headerLine])
  · exact absurd nothing logged

section Bench

def benchIds : List Field :=
  [⟨ascii "oil_pressure", by decide⟩, ⟨ascii "oil_temperature", by decide⟩]

def benchSample (uptimeMs : UInt32) : Sample benchIds where
  dateStamp := ascii "20260924"
  logTimestamp := ⟨ascii "2026-09-24 10:00:00", by decide⟩
  uptimeMs := uptimeMs
  sensors := benchIds.map fun id => ⟨id, ⟨ascii "12.500", by decide⟩, ⟨ascii "4.000", by decide⟩, .none⟩
  configured := rfl

def Recorder.print (recorder : Recorder) (limit : Nat) (sample : Sample ids) : Recorder :=
  let outcome := (recorder.logger.logRow sample).exec (Card.handle limit) recorder.card
  ⟨outcome.1.2, outcome.2, record recorder.logged sample outcome.1.1⟩

theorem Recorder.print_step (recorder : Recorder) (limit : Nat) (sample : Sample ids) :
    recorder.Step (.logRow sample) (recorder.print limit sample) :=
  .logRow (Model.runs_of_handler (Card.handle_step limit) _ _)

def Recorder.mount (recorder : Recorder) : Recorder := { recorder with logger := recorder.logger.begin true }

theorem Reached.print {recorder : Recorder} (earlier : Reached (Remembered ids) recorder) (limit : Nat)
    (sample : Sample ids)
    (ok : Appendable (headerLine ids) (Lines.of (recorder.card.content (fileName sample.dateStamp)))
      (recorder.card.content (fileName sample.dateStamp)) recorder.logger.incompleteRow) :
    Reached (Remembered ids) (recorder.print limit sample) :=
  @Reached.step _ _ _ _ (.logRow sample) earlier (fun _ => ok) (recorder.print_step limit sample)

def cutShort : Recorder :=
  (({} : Recorder).mount.print 1000 (benchSample 250)).print 5 (benchSample 500)

theorem cutShort_reached : Reached (Remembered benchIds) cutShort := by
  have mounted : Reached (Remembered benchIds) ({} : Recorder).mount :=
    @Reached.step _ _ _ _ (.begin true) .start trivial (.begin true)
  exact (mounted.print 1000 _ (by decide +kernel)).print 5 _ (by decide +kernel)

/-- The next row is separated from the torn one. -/
theorem rows_survive_torn :
    (cutShort.print 1000 (benchSample 750)).logged (fileName (ascii "20260924")) =
        [(benchSample 250).row, (benchSample 750).row] ∧
      Survive (headerLine benchIds) (cutShort.print 1000 (benchSample 750)) :=
  ⟨by decide +kernel, rows_survive benchIds _ (cutShort_reached.print 1000 _ (by decide +kernel))⟩

def glued : Recorder := ({ cutShort with logger := {} } : Recorder).mount.print 1000 (benchSample 750)

theorem Reached.always {allowed : Recorder → Action ids → Prop} {recorder : Recorder}
    (reached : Reached allowed recorder) : Reached (fun _ (_ : Action ids) => True) recorder := by
  induction reached with
  | start => exact .start
  | step earlier ok taken ih => exact ih.step trivial taken

theorem glued_reached : Reached (fun _ (_ : Action benchIds) => True) glued :=
  ((cutShort_reached.always.step trivial .reboot).step trivial (.begin true)).step trivial
    (Recorder.print_step _ 1000 (benchSample 750))

theorem Recorded.complete {header : Bytes} {lines : Lines} {logged : List Bytes} (recorded : Recorded header lines logged)
    {row : Bytes} (member : row ∈ logged) : row ∈ lines.complete := by
  obtain ⟨rows, complete, -, kept⟩ := recorded
  rw [complete]
  exact List.mem_cons_of_mem _ (kept.subset member)

/-- Rows do not survive a reboot between a torn row and the next one. -/
theorem rows_glued_after_reboot :
    ¬∀ (ids : List Field) (recorder : Recorder), Reached (fun _ (_ : Action ids) => True) recorder →
      Survive (headerLine ids) recorder := by
  intro survive
  have logged : (benchSample 750).row ∈ glued.logged (fileName (ascii "20260924")) := by decide +kernel
  have missing : (benchSample 750).row ∉
      (Lines.of (glued.card.content (fileName (ascii "20260924")))).complete := by decide +kernel
  exact missing ((survive benchIds glued glued_reached _ (List.ne_nil_of_mem logged)).complete logged)

end Bench

end ApexiDevices.CsvLogger
