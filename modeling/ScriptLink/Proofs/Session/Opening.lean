import Mathlib.Data.List.Nodup
import Mathlib.Logic.Function.Basic
import ScriptLink.Proofs.Record
import ScriptLink.Proofs.Session.Beginning

/-!
# ScriptLink.Proofs.Session.Opening — a slot gives its channel once

* `Slots` are the slots of a program with the number that the next handle gets. `Slots.step` installs a transport in
  one of them, takes it out, begins a session over it, or drops what was taken.
* A `SlotRecord` says what was done with which slot, and what came of it. `handles` are the handles that were given
  out, and `offered` is the transport that was installed last in a slot.
* `Recorded.step`: after any history, a slot is what the records of it say, and the next number is the first one
  plus the number of the handles. `slot_gives_once` is what follows for one more step.
-/

namespace ScriptLink

/-! ## Slots and what is done with them -/

/-- What is done with a slot. -/
inductive SlotAct (σ : Type) where
  | install (t : Transport)
  | take
  /-- Begin a session over the channel of the slot. -/
  | bootstrap (seed : Seed) (l : Loader σ) (memory : σ)
  /-- Drop what was taken from the slot, the handle or the session that has it. -/
  | drop

/-- What a slot answers to an act. -/
inductive SlotAnswer (σ : Type) where
  | done
  | taken (h : Handle Transport)
  | begun (s : Session σ)
  | refused (e : ChannelError)
  | failed (f : SessionFault)

namespace SlotAnswer

/-- The handle that was given out. -/
def handle? : SlotAnswer σ → Option (Handle Transport)
  | taken h => some h
  | begun s => some s.handle
  | _ => none

/-- The channel was refused, or a session did not begin. -/
def Fails : SlotAnswer σ → Prop
  | refused _ | failed _ => True
  | _ => False

end SlotAnswer

/-- What was done with the slot of which number, and what came of it. -/
abbrev SlotRecord (σ : Type) := Record (Nat × SlotAct σ) (SlotAnswer σ)

/-- The slots of a program, by their numbers, and the number that the next handle gets. -/
structure Slots where
  slot : Nat → Slot Transport
  next : UInt32

namespace Slots

/-- At the beginning all slots are empty; one that is made with a transport in it has had that transport installed
first. -/
def start (first : UInt32) : Slots := ⟨fun _ => .empty, first⟩

/-- The slots with one of them changed. -/
def put (i : Nat) (slot : Slot Transport) (s : Slots) : Slots :=
  { s with slot := Function.update s.slot i slot }

/-- The slots after a handle was taken from one of them. -/
def given (i : Nat) (slot : Slot Transport) (s : Slots) : Slots :=
  { s.put i slot with next := s.next + 1 }

/-- What an act on one slot does. -/
def step (s : Slots) : Nat × SlotAct σ → SlotAnswer σ × Slots
  | (i, .install t) =>
    match (s.slot i).install t with
    | .ok slot => (.done, s.put i slot)
    | .error e => (.refused e, s)
  | (i, .take) =>
    match (s.slot i).take s.next with
    | .ok (h, slot) => (.taken h, s.given i slot)
    | .error e => (.refused e, s)
  | (i, .bootstrap seed l memory) =>
    match Session.bootstrap seed l memory s.next (s.slot i) with
    | (.ok session, _, slot) => (.begun session, s.given i slot)
    | (.error f, _, slot) => (.failed f, s.put i slot)
  | (_, .drop) => (.done, s)

theorem put_self (s : Slots) (i : Nat) : s.put i (s.slot i) = s := by
  rw [put, Function.update_eq_self]

/-- A step gives out the transport that the slot holds, or installs one in a slot that was not opened, or leaves
everything as it was. -/
theorem step_cases (s : Slots) (i : Nat) (a : SlotAct σ) :
    (∃ h, (s.step (i, a)).1.handle? = some h ∧ s.slot i = .installed h.transport ∧ h.rid = s.next ∧
      (s.step (i, a)).2 = s.given i .opened) ∨
    (∃ x, a = .install x ∧ (s.step (i, a)).1 = .done ∧ s.slot i ≠ .opened ∧
      (s.step (i, a)).2 = s.put i (.installed x)) ∨
    ((s.step (i, a)).1.handle? = none ∧ (∀ x, a = .install x → (s.step (i, a)).1 ≠ .done) ∧
      (s.step (i, a)).2 = s) := by
  cases a with
  | install x =>
    cases hs : s.slot i with
    | opened => exact .inr (.inr (by simp [step, hs, Slot.install, SlotAnswer.handle?]))
    | empty | installed y => exact .inr (.inl ⟨x, rfl, by simp [step, hs, Slot.install]⟩)
  | take =>
    cases hs : s.slot i with
    | empty | opened => exact .inr (.inr (by simp [step, hs, Slot.take, SlotAnswer.handle?]))
    | installed y => exact .inl ⟨⟨s.next, y⟩, by simp [step, hs, Slot.take, SlotAnswer.handle?]⟩
  | bootstrap seed l memory =>
    cases hd : (Dispatcher.bootstrap seed l memory).1 with
    | error f =>
      have hb : Session.bootstrap seed l memory s.next (s.slot i) = _ :=
        Session.bootstrap_of_error (Prod.ext hd rfl)
      exact .inr (.inr (by simp [step, hb, SlotAnswer.handle?, put_self]))
    | ok d =>
      have hb : Session.bootstrap seed l memory s.next (s.slot i) = _ := Session.bootstrap_of_ok hd
      cases hs : s.slot i with
      | empty | opened =>
        have hput := s.put_self i
        rw [hs] at hb hput
        exact .inr (.inr (by simp [step, hs, hb, hput, Slot.take, SlotAnswer.handle?]))
      | installed y =>
        rw [hs] at hb
        exact .inl ⟨⟨s.next, y⟩, by simp [step, hs, hb, Slot.take, SlotAnswer.handle?]⟩
  | drop => exact .inr (.inr ⟨rfl, nofun, rfl⟩)

end Slots

/-! ## What the records tell -/

namespace SlotRecord

/-- The handles that were given out, oldest first. -/
def handles (t : List (SlotRecord σ)) : List (Handle Transport) := t.filterMap fun r => r.answer.handle?

/-- The transport that was installed. -/
def installed? (r : SlotRecord σ) : Option Transport :=
  match r.act.2, r.answer with
  | .install t, .done => some t
  | _, _ => none

/-- The transport that was installed last. -/
def offered (t : List (SlotRecord σ)) : Option Transport := (t.filterMap installed?).getLast?

/-- What was done with one of the slots. -/
def ofSlot (i : Nat) (t : List (SlotRecord σ)) : List (SlotRecord σ) := t.filter fun r => r.act.1 == i

/-- What a slot is after what was done with it. -/
def standing (t : List (SlotRecord σ)) : Slot Transport :=
  if handles t ≠ [] then .opened
  else match offered t with
    | some x => .installed x
    | none => .empty

variable (t : List (SlotRecord σ)) (r : SlotRecord σ)

theorem handles_concat : handles (t ++ [r]) = handles t ++ r.answer.handle?.toList := by
  rw [handles, List.filterMap_append]
  cases h : r.answer.handle? <;> simp [handles, h]

theorem offered_concat : offered (t ++ [r]) = r.installed?.or (offered t) := by
  rw [offered, List.filterMap_append, List.getLast?_append]
  cases h : r.installed? <;> simp [offered, h]

theorem ofSlot_concat_self (i : Nat) (a : SlotAct σ) (x : SlotAnswer σ) :
    ofSlot i (t ++ [⟨(i, a), x⟩]) = ofSlot i t ++ [⟨(i, a), x⟩] := by
  simp [ofSlot]

theorem ofSlot_concat_of_ne {i j : Nat} (h : j ≠ i) (a : SlotAct σ) (x : SlotAnswer σ) :
    ofSlot j (t ++ [⟨(i, a), x⟩]) = ofSlot j t := by
  simp [ofSlot, h.symm]

variable {t}

theorem standing_of_handles (h : handles t ≠ []) : standing t = .opened := if_pos h

theorem standing_of_offered (h : handles t = []) {x : Transport} (hx : offered t = some x) :
    standing t = .installed x := by
  rw [standing, if_neg (by simp [h]), hx]

theorem standing_of_nothing (h : handles t = []) (hx : offered t = none) : standing t = .empty := by
  rw [standing, if_neg (by simp [h]), hx]

/-- A slot that still holds a transport, or nothing yet, has given out no handle. -/
theorem handles_of_standing (h : standing t ≠ .opened) : handles t = [] := by
  by_contra hne
  exact h (standing_of_handles hne)

end SlotRecord

open SlotRecord

/-! ## Histories -/

/-- The slots are what the records say, each has given out at most one handle, and the handles have the numbers from
the first one on. -/
structure Recorded (first : UInt32) (s : Slots) (t : List (SlotRecord σ)) : Prop where
  slot : ∀ i, s.slot i = standing (ofSlot i t)
  once : ∀ i, (handles (ofSlot i t)).length ≤ 1
  next : s.next = first + UInt32.ofNat (handles t).length
  rids : (handles t).map Handle.rid =
    (List.range (handles t).length).map fun n => first + UInt32.ofNat n

theorem recorded_start (first : UInt32) : Recorded first (Slots.start first) ([] : List (SlotRecord σ)) where
  slot _ := rfl
  once _ := Nat.zero_le 1
  next := by simp [Slots.start, handles]
  rids := rfl

section

variable {first : UInt32} {s : Slots} {t : List (SlotRecord σ)} (h : Recorded first s t) {i : Nat} {a : SlotAct σ}
include h

/-- A handle is given out. -/
theorem Recorded.give {g : Handle Transport} (hg : (s.step (i, a)).1.handle? = some g)
    (hslot : s.slot i = .installed g.transport) (hrid : g.rid = s.next)
    (hnext : (s.step (i, a)).2 = s.given i .opened) :
    Recorded first (s.step (i, a)).2 (t ++ [⟨(i, a), (s.step (i, a)).1⟩]) := by
  have hnone : handles (ofSlot i t) = [] :=
    handles_of_standing (by rw [← h.slot, hslot]; exact fun h => nomatch h)
  have hhandles : handles (t ++ [⟨(i, a), (s.step (i, a)).1⟩]) = handles t ++ [g] := by
    rw [handles_concat, hg, Option.toList_some]
  refine ⟨fun j => ?_, fun j => ?_, ?_, ?_⟩
  · by_cases hj : j = i
    · subst hj
      rw [ofSlot_concat_self, hnext, standing_of_handles (by simp [handles_concat, hg])]
      exact Function.update_self ..
    · rw [ofSlot_concat_of_ne _ hj, hnext, ← h.slot]
      exact Function.update_of_ne hj ..
  · by_cases hj : j = i
    · subst hj
      rw [ofSlot_concat_self, handles_concat, hnone, hg]
      exact Nat.le_refl 1
    · rw [ofSlot_concat_of_ne _ hj]
      exact h.once j
  · rw [hhandles, List.length_append, List.length_singleton, UInt32.ofNat_add, ← UInt32.add_assoc, ← h.next,
      hnext]
    rfl
  · rw [hhandles, List.length_append, List.length_singleton, List.map_append, h.rids, List.range_succ,
      List.map_append, List.map_singleton, List.map_singleton, ← h.next, hrid]

/-- A transport is installed in a slot that has given out no handle. -/
theorem Recorded.install {x : Transport} (ha : a = .install x) (hx : (s.step (i, a)).1 = .done)
    (hslot : s.slot i ≠ .opened) (hnext : (s.step (i, a)).2 = s.put i (.installed x)) :
    Recorded first (s.step (i, a)).2 (t ++ [⟨(i, a), (s.step (i, a)).1⟩]) := by
  have hnone : handles (ofSlot i t) = [] := handles_of_standing (h.slot i ▸ hslot)
  rw [hx, hnext]
  have hkeep (u : List (SlotRecord σ)) : handles (u ++ [⟨(i, a), .done⟩]) = handles u := by
    rw [handles_concat]
    exact List.append_nil _
  refine ⟨fun j => ?_, fun j => ?_, by rw [hkeep]; exact h.next, by rw [hkeep]; exact h.rids⟩
  · by_cases hj : j = i
    · subst hj
      rw [ofSlot_concat_self, standing_of_offered (by rw [hkeep, hnone])
        (show offered (ofSlot j t ++ [⟨(j, a), .done⟩]) = some x by rw [offered_concat, ha]; rfl)]
      exact Function.update_self ..
    · rw [ofSlot_concat_of_ne _ hj, ← h.slot]
      exact Function.update_of_ne hj ..
  · by_cases hj : j = i
    · subst hj
      rw [ofSlot_concat_self, hkeep]
      exact h.once j
    · rw [ofSlot_concat_of_ne _ hj]
      exact h.once j

/-- Nothing is given out or installed. -/
theorem Recorded.keep {x : SlotAnswer σ} (hg : x.handle? = none) (ha : ∀ y, a = .install y → x ≠ .done) :
    Recorded first s (t ++ [⟨(i, a), x⟩]) := by
  have hkeep (u : List (SlotRecord σ)) : handles (u ++ [⟨(i, a), x⟩]) = handles u := by
    rw [handles_concat, hg, Option.toList_none, List.append_nil]
  have hoffered (u : List (SlotRecord σ)) : offered (u ++ [⟨(i, a), x⟩]) = offered u := by
    have hnone : SlotRecord.installed? ⟨(i, a), x⟩ = none := by
      cases a with
      | install y =>
        cases x with
        | done => exact absurd rfl (ha y rfl)
        | _ => rfl
      | _ => rfl
    rw [offered_concat, hnone, Option.none_or]
  have hof (j : Nat) : handles (ofSlot j (t ++ [⟨(i, a), x⟩])) = handles (ofSlot j t) ∧
      offered (ofSlot j (t ++ [⟨(i, a), x⟩])) = offered (ofSlot j t) := by
    by_cases hj : j = i
    · subst hj
      rw [ofSlot_concat_self, hkeep, hoffered]
      exact ⟨rfl, rfl⟩
    · rw [ofSlot_concat_of_ne _ hj]
      exact ⟨rfl, rfl⟩
  refine ⟨fun j => ?_, fun j => by rw [(hof j).1]; exact h.once j, by rw [hkeep]; exact h.next,
    by rw [hkeep]; exact h.rids⟩
  rw [h.slot, standing, standing, (hof j).1, (hof j).2]

theorem Recorded.step (i : Nat) (a : SlotAct σ) :
    Recorded first (s.step (i, a)).2 (t ++ [⟨(i, a), (s.step (i, a)).1⟩]) := by
  rcases s.step_cases i a with ⟨g, hg, hslot, hrid, hnext⟩ | ⟨x, ha, hx, hslot, hnext⟩ | ⟨hg, ha, hnext⟩
  · exact h.give hg hslot hrid hnext
  · exact h.install ha hx hslot hnext
  · rw [hnext]
    exact h.keep hg ha

end

/-- After any history the slots are what its records say. -/
theorem recorded_after (first : UInt32) (acts : List (Nat × SlotAct σ)) :
    Recorded first (Record.after Slots.step (Slots.start first) acts)
      (Record.records Slots.step (Slots.start first) acts) :=
  Record.invariant Slots.step (recorded_start first) (fun _ _ a h => h.step a.1 a.2) acts

/-- As long as there are not more handles than numbers, no two have the same. -/
theorem Recorded.nodup {first : UInt32} {s : Slots} {t : List (SlotRecord σ)} (h : Recorded first s t)
    (hn : (handles t).length ≤ UInt32.size) : ((handles t).map Handle.rid).Nodup := by
  rw [h.rids]
  refine List.Nodup.map_on (fun m hm n hn' hmn => ?_) List.nodup_range
  have hm := List.mem_range.mp hm
  have hn' := List.mem_range.mp hn'
  have he := congrArg UInt32.toNat ((UInt32.add_right_inj first).mp hmn)
  simp only [UInt32.toNat_ofNat', UInt32.size] at he hn
  omega

/-! ## One more step -/

namespace Slots

variable {s : Slots} {i : Nat} {seed : Seed} {l : Loader σ} {memory : σ}

/-- A session that cannot begin does not get to the slot. -/
theorem step_bootstrap_of_error {f : SessionFault} (h : (Dispatcher.bootstrap seed l memory).1 = .error f) :
    (s.step (i, .bootstrap seed l memory)).1 = .failed f := by
  rw [step, Session.bootstrap_of_error (Prod.ext h rfl)]

/-- A session that can begin takes the channel like anybody else. -/
theorem step_bootstrap_of_ok {d : Dispatcher σ} (h : (Dispatcher.bootstrap seed l memory).1 = .ok d) :
    (s.step (i, .bootstrap seed l memory)).1 =
      match (s.slot i).take s.next with
      | .error e => .failed (.channel e)
      | .ok (handle, _) => .begun ⟨handle, d, 0, 0⟩ := by
  rw [step, Session.bootstrap_of_ok h]
  cases (s.slot i).take s.next <;> rfl

/-- A step that fails leaves everything as it was. -/
theorem step_of_fails {a : SlotAct σ} (h : (s.step (i, a)).1.Fails) : (s.step (i, a)).2 = s := by
  rcases s.step_cases i a with ⟨g, hg, -⟩ | ⟨x, -, hx, -⟩ | ⟨-, -, hnext⟩
  · cases ha : (s.step (i, a)).1 with
    | refused e | failed f =>
      rw [ha] at hg
      cases hg
    | done | taken g | begun session =>
      rw [ha] at h
      exact h.elim
  · rw [hx] at h
    exact h.elim
  · exact hnext

end Slots

/-- **One channel from a slot**: whatever was done with the slots of a program, each has given out at most one handle,
and as long as there are not more handles than numbers, no two of them have the same. A slot that has given out
none takes another transport; it gives out the one that was installed last, to whoever asks for it or begins a
session, and is unavailable if there was none. A slot that has given out its handle refuses from then on, whatever
became of the handle. And whatever fails, a session for whatever reason, leaves all slots as they were. -/
theorem slot_gives_once (first : UInt32) (acts : List (Nat × SlotAct σ)) (i : Nat) :
    let s := Record.after Slots.step (Slots.start first) acts
    let t := Record.records Slots.step (Slots.start first) acts
    let unavailable := ChannelError.unavailable "no transport installed"
    let answer (a : SlotAct σ) := (s.step (i, a)).1
    (handles (ofSlot i t)).length ≤ 1 ∧
    ((handles t).length ≤ UInt32.size → ((handles t).map Handle.rid).Nodup) ∧
    (handles (ofSlot i t) = [] →
      (∀ x, answer (.install x) = .done) ∧
      (offered (ofSlot i t) = none → answer .take = .refused unavailable ∧
        ∀ seed l memory d, (Dispatcher.bootstrap seed l memory).1 = .ok d →
          answer (.bootstrap seed l memory) = .failed (.channel unavailable)) ∧
      ∀ x, offered (ofSlot i t) = some x → answer .take = .taken ⟨s.next, x⟩ ∧
        ∀ seed l memory d, (Dispatcher.bootstrap seed l memory).1 = .ok d →
          answer (.bootstrap seed l memory) = .begun ⟨⟨s.next, x⟩, d, 0, 0⟩) ∧
    (handles (ofSlot i t) ≠ [] →
      (∀ x, answer (.install x) = .refused .alreadyOpened) ∧ answer .take = .refused .alreadyOpened ∧
        ∀ seed l memory d, (Dispatcher.bootstrap seed l memory).1 = .ok d →
          answer (.bootstrap seed l memory) = .failed (.channel .alreadyOpened)) ∧
    (∀ seed l memory f, (Dispatcher.bootstrap seed l memory).1 = .error f →
      answer (.bootstrap seed l memory) = .failed f) ∧
    ∀ a : SlotAct σ, (answer a).Fails → (s.step (i, a)).2 = s := by
  intro s t unavailable answer
  have h : Recorded first s t := recorded_after first acts
  have hslot := h.slot i
  refine ⟨h.once i, h.nodup, fun hnone => ⟨fun x => ?_, fun hoffered => ?_, fun x hx => ?_⟩, fun hgiven => ?_,
    fun seed l memory f => Slots.step_bootstrap_of_error, fun a => Slots.step_of_fails⟩
  · have hopen : s.slot i ≠ .opened := by
      rw [hslot]
      cases hx : offered (ofSlot i t) with
      | none => exact standing_of_nothing hnone hx ▸ nofun
      | some y => exact standing_of_offered hnone hx ▸ nofun
    cases hs : s.slot i with
    | opened => exact absurd hs hopen
    | empty | installed y => simp [answer, Slots.step, hs, Slot.install]
  · rw [standing_of_nothing hnone hoffered] at hslot
    refine ⟨by simp [answer, Slots.step, hslot, Slot.take, unavailable], fun seed l memory d hd => ?_⟩
    exact (Slots.step_bootstrap_of_ok hd).trans (by rw [hslot]; rfl)
  · rw [standing_of_offered hnone hx] at hslot
    refine ⟨by simp [answer, Slots.step, hslot, Slot.take], fun seed l memory d hd => ?_⟩
    exact (Slots.step_bootstrap_of_ok hd).trans (by rw [hslot]; rfl)
  · rw [standing_of_handles hgiven] at hslot
    refine ⟨fun x => by simp [answer, Slots.step, hslot, Slot.install],
      by simp [answer, Slots.step, hslot, Slot.take], fun seed l memory d hd => ?_⟩
    exact (Slots.step_bootstrap_of_ok hd).trans (by rw [hslot]; rfl)

end ScriptLink
