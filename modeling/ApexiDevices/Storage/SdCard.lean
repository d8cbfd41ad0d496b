import ApexiDevices.Shared.Bytes
import ApexiDevices.Shared.Program

set_option autoImplicit false

namespace ApexiDevices

open Device

inductive SdOp where
  | exists (name : Bytes)
  | openAppend (name : Bytes)
  | size (name : Bytes)
  | print (name bytes : Bytes)
  | flush (name : Bytes)
  | remove (name : Bytes)

abbrev SdOp.Reply : SdOp → Type
  | .exists _ | .openAppend _ | .remove _ => Bool
  | .size _ | .print _ _ => Nat
  | .flush _ => Unit

abbrev Sd : Signature := ⟨SdOp, SdOp.Reply⟩

abbrev OnCard := Prog Sd

def card (op : SdOp) : OnCard op.Reply := @Prog.request Sd op

namespace Sd

def «exists» (name : Bytes) : OnCard Bool := card (.exists name)
def openAppend (name : Bytes) : OnCard Bool := card (.openAppend name)
def size (name : Bytes) : OnCard Nat := card (.size name)
def print (name bytes : Bytes) : OnCard Nat := card (.print name bytes)
def flush (name : Bytes) : OnCard Unit := card (.flush name)
def remove (name : Bytes) : OnCard Bool := card (.remove name)

/-- The line, then its ending, even when the line was cut short. -/
def println (name bytes : Bytes) : OnCard Nat := do
  let line ← print name bytes
  let ending ← print name (ascii "\r\n")
  return line + ending

end Sd

abbrev Card := Bytes → Option Bytes

namespace Card

def content (card : Card) (name : Bytes) : Bytes := (card name).getD []

def set (card : Card) (name : Bytes) (file : Option Bytes) : Card := Function.update card name file

/-- A print leaves any prefix; opening or removing may fail. -/
def Step (card : Card) : (op : SdOp) → op.Reply → Card → Prop
  | .exists name, reply, last => reply = (card name).isSome ∧ last = card
  | .openAppend name, reply, last =>
    last = card.set name (some (card.content name)) ∨ (reply = false ∧ last = card)
  | .size name, reply, last => reply = (card.content name).length ∧ last = card
  | .print name bytes, reply, last =>
    reply ≤ bytes.length ∧ last = card.set name (some (card.content name ++ bytes.take reply))
  | .flush _, _, last => last = card
  | .remove name, reply, last => if reply then last = card.set name none else last = card

/-- The power fails between calls only. -/
def device : Model Sd Card where
  step := Step
  torn _ _ _ := False

/-- A card on which every call succeeds, except that a print stops at the limit. -/
def handle (limit : Nat) (card : Card) : (op : SdOp) → op.Reply × Card
  | .exists name => ((card name).isSome, card)
  | .openAppend name => (true, card.set name (some (card.content name)))
  | .size name => ((card.content name).length, card)
  | .print name bytes =>
    (min limit bytes.length, card.set name (some (card.content name ++ bytes.take (min limit bytes.length))))
  | .flush _ => ((), card)
  | .remove name => (true, card.set name none)

theorem handle_step (limit : Nat) (card : Card) (op : SdOp) :
    device.step card op (card.handle limit op).1 (card.handle limit op).2 := by
  cases op with
  | openAppend name => exact .inl rfl
  | print name bytes => exact ⟨Nat.min_le_right _ _, rfl⟩
  | «exists» name | size name => exact ⟨rfl, rfl⟩
  | flush name | remove name => exact rfl

@[simp] theorem content_set_self (card : Card) (name bytes : Bytes) :
    (card.set name (some bytes)).content name = bytes := by
  simp [content, set]

@[simp] theorem content_set_none (card : Card) (name : Bytes) : (card.set name none).content name = [] := by
  simp [content, set]

theorem content_set_of_ne (card : Card) {name other : Bytes} (file : Option Bytes) (differs : other ≠ name) :
    (card.set name file).content other = card.content other := by
  simp [content, set, differs]

@[simp] theorem set_set (card : Card) (name : Bytes) (first second : Option Bytes) :
    (card.set name first).set name second = card.set name second :=
  Function.update_idem _ _ _

@[simp] theorem content_created (card : Card) (name other : Bytes) :
    (card.set name (some (card.content name))).content other = card.content other := by
  by_cases same : other = name
  · subst same
    exact content_set_self card other _
  · exact content_set_of_ne card _ same

section Rules

variable {α : Type} {card : Card} {name bytes : Bytes} {post : α → Card → Prop}

/-- What holds after every run of a program on the card. -/
abbrev after (program : OnCard α) (post : α → Card → Prop) (card : Card) : Prop :=
  device.wp program post (fun _ => True) card

theorem after_call {op : SdOp} {rest : op.Reply → OnCard α} :
    after (ApexiDevices.card op >>= rest) post card ↔
      ∀ reply last, card.Step op reply last → after (rest reply) post last := by
  unfold after
  rw [Model.wp_bind]
  refine Model.wp_request.trans ?_
  constructor
  · exact fun h reply last step => (h.2.2 reply last step).2
  · exact fun h => ⟨trivial, fun _ impossible => impossible.elim, fun reply last step => ⟨trivial, h reply last step⟩⟩

@[simp] theorem after_pure {value : α} : after (pure value) post card ↔ post value card := by
  simp [after]

@[simp] theorem after_exists {rest : Bool → OnCard α} :
    after (Sd.exists name >>= rest) post card ↔ after (rest (card name).isSome) post card := by
  refine after_call.trans ⟨fun h => h _ _ ⟨rfl, rfl⟩, ?_⟩
  rintro h reply last ⟨rfl, rfl⟩
  exact h

@[simp] theorem after_size {rest : Nat → OnCard α} :
    after (Sd.size name >>= rest) post card ↔ after (rest (card.content name).length) post card := by
  refine after_call.trans ⟨fun h => h _ _ ⟨rfl, rfl⟩, ?_⟩
  rintro h reply last ⟨rfl, rfl⟩
  exact h

@[simp] theorem after_flush {rest : Unit → OnCard α} :
    after (Sd.flush name >>= rest) post card ↔ after (rest ()) post card := by
  refine after_call.trans ⟨fun h => h () _ rfl, ?_⟩
  rintro h reply last rfl
  exact h

theorem after_openAppend {rest : Bool → OnCard α} :
    after (Sd.openAppend name >>= rest) post card ↔
      (∀ opened, after (rest opened) post (card.set name (some (card.content name)))) ∧
        after (rest false) post card := by
  refine after_call.trans ⟨fun h => ⟨fun opened => h opened _ (.inl rfl), h false _ (.inr ⟨rfl, rfl⟩)⟩, ?_⟩
  rintro ⟨created, failed⟩ reply last (rfl | ⟨rfl, rfl⟩)
  · exact created reply
  · exact failed

theorem after_print {rest : Nat → OnCard α} :
    after (Sd.print name bytes >>= rest) post card ↔
      ∀ written ≤ bytes.length,
        after (rest written) post (card.set name (some (card.content name ++ bytes.take written))) := by
  refine after_call.trans ⟨fun h written fits => h written _ ⟨fits, rfl⟩, ?_⟩
  rintro h reply last ⟨fits, rfl⟩
  exact h reply fits

theorem after_println {rest : Nat → OnCard α} :
    after (Sd.println name bytes >>= rest) post card ↔
      ∀ line ≤ bytes.length, ∀ ending ≤ 2,
        after (rest (line + ending)) post
          (card.set name (some (card.content name ++ (bytes.take line ++ (ascii "\r\n").take ending)))) := by
  have two : (ascii "\r\n").length = 2 := by decide
  unfold Sd.println
  simp only [Prog.bind_bind_eq, Prog.pure_bind_eq, after_print, two, content_set_self, set_set, List.append_assoc]

theorem after_remove {rest : Bool → OnCard α} :
    after (Sd.remove name >>= rest) post card ↔
      after (rest true) post (card.set name none) ∧ after (rest false) post card := by
  refine after_call.trans ⟨fun h => ⟨h true _ rfl, h false _ rfl⟩, ?_⟩
  rintro ⟨removed, kept⟩ (_ | _) last rfl
  · exact kept
  · exact removed

end Rules

end Card

end ApexiDevices
