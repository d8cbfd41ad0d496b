import Mathlib.Data.List.Basic
import Mathlib.Data.List.Sort
import Mathlib.Tactic.Common

set_option autoImplicit false

/-!
# An account of everything a store was ever given

Entries are numbered in the order they are given. The account only books what
has been observed: what returned, what was retired, what was reclaimed.
-/

namespace Device

variable {α : Type}

structure Ledger (α : Type) where
  given : List α := []
  returned : List Nat := []
  interrupted : List Nat := []
  acknowledged : List Nat := []
  rotated : List Nat := []
  live : List Nat := []
  cuts : Nat := 0

namespace Ledger

def entry (ledger : Ledger α) (id : Nat) : Option α := ledger.given[id]?

def cut (ledger : Ledger α) : Ledger α := { ledger with cuts := ledger.cuts + 1 }

/-- How the call that offers an entry ends. -/
inductive Fate where
  | accepted
  | refused
  | cut (stored : Bool)

def Fate.stored : Fate → Bool
  | .accepted => true
  | .refused => false
  | .cut stored => stored

/-- The next entry is offered while the oldest live ones may have to make room for it. -/
def offer (ledger : Ledger α) (value : α) (removed : Nat) (fate : Fate) : Ledger α :=
  let id := ledger.given.length
  let offered := { ledger with
    given := ledger.given ++ [value]
    rotated := ledger.live.take removed ++ ledger.rotated
    live := ledger.live.drop removed ++ if fate.stored then [id] else [] }
  match fate with
  | .accepted => { offered with returned := id :: ledger.returned }
  | .refused => offered
  | .cut _ => { offered.cut with interrupted := id :: ledger.interrupted }

/-- The oldest live entry is retired. -/
def retire (ledger : Ledger α) : Ledger α :=
  { ledger with
    acknowledged := ledger.live.take 1 ++ ledger.acknowledged
    live := ledger.live.drop 1 }

/-- The live entries are in the order they were given, and nothing that returned is lost. -/
structure Balanced (ledger : Ledger α) : Prop where
  ordered : ledger.live.Pairwise (· < ·)
  known : ∀ id ∈ ledger.live, id < ledger.given.length
  past : ∀ id ∈ ledger.acknowledged, id < ledger.given.length
  issued : ∀ id ∈ ledger.returned, id < ledger.given.length
  kept : ∀ id ∈ ledger.returned, id ∉ ledger.acknowledged → id ∉ ledger.rotated → id ∈ ledger.live
  sourced : ∀ id ∈ ledger.live, id ∈ ledger.returned ∨ id ∈ ledger.interrupted
  retired : ∀ id ∈ ledger.acknowledged, id ∉ ledger.live
  bounded : ledger.interrupted.length ≤ ledger.cuts

/-- The payloads a boot should find. -/
def contents (ledger : Ledger α) : List (Option α) := ledger.live.map ledger.entry

theorem retire_contents (ledger : Ledger α) : ledger.retire.contents = ledger.contents.drop 1 := by
  rw [contents, contents, ← List.map_drop]
  rfl

theorem Balanced.fresh : Balanced ({} : Ledger α) where
  ordered := .nil
  known _ member := absurd member List.not_mem_nil
  past _ member := absurd member List.not_mem_nil
  issued _ member := absurd member List.not_mem_nil
  kept _ member := absurd member List.not_mem_nil
  sourced _ member := absurd member List.not_mem_nil
  retired _ member := absurd member List.not_mem_nil
  bounded := Nat.le_refl _

theorem Balanced.cut {ledger : Ledger α} (balanced : ledger.Balanced) : ledger.cut.Balanced :=
  ⟨balanced.ordered, balanced.known, balanced.past, balanced.issued, balanced.kept, balanced.sourced,
    balanced.retired, Nat.le_succ_of_le balanced.bounded⟩

theorem Balanced.retire {ledger : Ledger α} (balanced : ledger.Balanced) : ledger.retire.Balanced := by
  obtain ⟨ordered, known, past, issued, kept, sourced, retired, bounded⟩ := balanced
  cases live : ledger.live with
  | nil =>
    have same : ledger.retire = ledger := by
      cases ledger
      simp_all [Ledger.retire]
    rw [same]
    exact ⟨ordered, known, past, issued, kept, sourced, retired, bounded⟩
  | cons first rest =>
    rw [live] at ordered known kept sourced retired
    have acknowledged : ledger.retire.acknowledged = first :: ledger.acknowledged := by
      simp [Ledger.retire, live]
    have left : ledger.retire.live = rest := by simp [Ledger.retire, live]
    obtain ⟨least, sorted⟩ := List.pairwise_cons.mp ordered
    refine ⟨left ▸ sorted, ?_, ?_, issued, ?_, ?_, ?_, bounded⟩
    · exact fun id member => known id (List.mem_cons_of_mem _ (left ▸ member))
    · intro id member
      rw [acknowledged] at member
      rcases List.mem_cons.mp member with rfl | old
      · exact known id List.mem_cons_self
      · exact past id old
    · intro id member notAcknowledged notRotated
      rw [acknowledged, List.mem_cons, not_or] at notAcknowledged
      have here := kept id member notAcknowledged.2 notRotated
      exact left ▸ (List.mem_cons.mp here).resolve_left notAcknowledged.1
    · exact fun id member => sourced id (List.mem_cons_of_mem _ (left ▸ member))
    · intro id member
      rw [acknowledged] at member
      rw [left]
      rcases List.mem_cons.mp member with rfl | old
      · exact fun again => Nat.lt_irrefl _ (least id again)
      · exact fun again => retired id old (List.mem_cons_of_mem _ again)

section Offer

variable (ledger : Ledger α) (value : α) (removed : Nat) (fate : Fate)

@[simp] theorem offer_given : (ledger.offer value removed fate).given = ledger.given ++ [value] := by
  cases fate <;> rfl

@[simp] theorem offer_acknowledged :
    (ledger.offer value removed fate).acknowledged = ledger.acknowledged := by
  cases fate <;> rfl

@[simp] theorem offer_rotated :
    (ledger.offer value removed fate).rotated = ledger.live.take removed ++ ledger.rotated := by
  cases fate <;> rfl

@[simp] theorem offer_live : (ledger.offer value removed fate).live =
    ledger.live.drop removed ++ if fate.stored then [ledger.given.length] else [] := by
  cases fate <;> rfl

theorem mem_offer_live {id : Nat} (member : id ∈ (ledger.offer value removed fate).live) :
    id ∈ ledger.live ∨ fate.stored = true ∧ id = ledger.given.length := by
  rw [offer_live] at member
  rcases List.mem_append.mp member with old | new
  · exact .inl (List.mem_of_mem_drop old)
  · cases stored : fate.stored <;> simp_all

theorem offer_returned_sub : ledger.returned ⊆ (ledger.offer value removed fate).returned := by
  cases fate <;> simp [Ledger.offer, Ledger.cut]

theorem offer_interrupted_sub : ledger.interrupted ⊆ (ledger.offer value removed fate).interrupted := by
  cases fate <;> simp [Ledger.offer, Ledger.cut]

theorem offer_sourced (stored : fate.stored = true) :
    ledger.given.length ∈ (ledger.offer value removed fate).returned ∨
      ledger.given.length ∈ (ledger.offer value removed fate).interrupted := by
  cases fate with
  | accepted => exact .inl List.mem_cons_self
  | refused => cases stored
  | cut _ => exact .inr List.mem_cons_self

theorem mem_offer_returned {id : Nat} (member : id ∈ (ledger.offer value removed fate).returned) :
    id ∈ ledger.returned ∨ fate.stored = true ∧ id = ledger.given.length := by
  cases fate with
  | accepted => simpa [Fate.stored, Ledger.offer, or_comm] using member
  | refused => exact .inl member
  | cut _ => exact .inl member

end Offer

theorem Balanced.offer {ledger : Ledger α} (balanced : ledger.Balanced) (value : α) (removed : Nat)
    (fate : Fate) : (ledger.offer value removed fate).Balanced := by
  have size : (ledger.offer value removed fate).given.length = ledger.given.length + 1 := by simp
  have older {id : Nat} (member : id ∈ ledger.live) (kept : id ∉ ledger.live.take removed) :
      id ∈ (ledger.offer value removed fate).live := by
    rw [offer_live]
    rw [← List.take_append_drop removed ledger.live] at member
    exact List.mem_append_left _ ((List.mem_append.mp member).resolve_left kept)
  constructor
  case ordered =>
    rw [offer_live]
    refine List.pairwise_append.mpr ⟨balanced.ordered.sublist (List.drop_sublist _ _), ?_, ?_⟩
    · split <;> simp
    · intro id member last new
      have least := balanced.known id (List.mem_of_mem_drop member)
      cases stored : fate.stored <;> simp_all
  case known =>
    intro id member
    rw [size]
    rcases mem_offer_live _ _ _ _ member with old | ⟨-, rfl⟩
    · exact Nat.lt_succ_of_lt (balanced.known id old)
    · exact Nat.lt_succ_self _
  case past =>
    intro id member
    rw [offer_acknowledged] at member
    exact size ▸ Nat.lt_succ_of_lt (balanced.past id member)
  case issued =>
    intro id member
    rw [size]
    rcases mem_offer_returned _ _ _ _ member with old | ⟨-, rfl⟩
    · exact Nat.lt_succ_of_lt (balanced.issued id old)
    · exact Nat.lt_succ_self _
  case kept =>
    intro id member notAcknowledged notRotated
    rw [offer_acknowledged] at notAcknowledged
    rw [offer_rotated, List.mem_append, not_or] at notRotated
    rcases mem_offer_returned _ _ _ _ member with old | ⟨stored, rfl⟩
    · exact older (balanced.kept id old notAcknowledged notRotated.2) notRotated.1
    · simp [stored]
  case sourced =>
    intro id member
    rcases mem_offer_live _ _ _ _ member with old | ⟨stored, rfl⟩
    · exact (balanced.sourced id old).imp (fun h => offer_returned_sub _ _ _ _ h)
        (fun h => offer_interrupted_sub _ _ _ _ h)
    · exact offer_sourced _ _ _ _ stored
  case retired =>
    intro id member
    rw [offer_acknowledged] at member
    intro again
    rcases mem_offer_live _ _ _ _ again with old | ⟨-, rfl⟩
    · exact balanced.retired id member old
    · exact Nat.lt_irrefl _ (balanced.past _ member)
  case bounded =>
    have bounded := balanced.bounded
    cases fate <;> simpa [Ledger.offer, Ledger.cut] using bounded

theorem offer_entry (ledger : Ledger α) (value : α) (removed : Nat) (fate : Fate) {id : Nat}
    (known : id < ledger.given.length) :
    (ledger.offer value removed fate).entry id = ledger.entry id := by
  rw [entry, offer_given, List.getElem?_append_left known, entry]

theorem offer_contents {ledger : Ledger α} (balanced : ledger.Balanced) (value : α) (removed : Nat)
    (fate : Fate) : (ledger.offer value removed fate).contents =
      ledger.contents.drop removed ++ if fate.stored then [some value] else [] := by
  have older : (ledger.live.drop removed).map (ledger.offer value removed fate).entry =
      ledger.contents.drop removed := by
    rw [contents, ← List.map_drop]
    refine List.map_congr_left fun id member => ?_
    exact offer_entry _ _ _ _ (balanced.known id (List.mem_of_mem_drop member))
  have newest : (ledger.offer value removed fate).entry ledger.given.length = some value := by
    rw [entry, offer_given, List.getElem?_concat_length]
  rw [contents, offer_live, List.map_append, older]
  split
  · rw [List.map_singleton, newest]
  · rfl

end Ledger

end Device
