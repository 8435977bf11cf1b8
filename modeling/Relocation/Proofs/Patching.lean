import Relocation.Proofs.Survey
import Relocation.Run.Patch

/-!
# Patching step by step

The patch loop reads its entry list from the storage that it is changing.  This file gives the loop
a relational form: `PatchRun` has one constructor for the end of the list, one for an entry that is
turned down and one for an address constant that is adjusted.  Every statement about the loop is an
induction on `PatchRun`, and `exists_patchRun` says that the loop always makes such a run.

The main results are the frame of a run (`PatchRun.agreesOn`), the fact that a list which no patch
touches is used as it was found (`PatchRun.of_list_apart`), and the contents of the patched fields
when no two of them overlap (`PatchRun.part_eq_of_pairwise`).
-/

namespace Relocation

/-- The address constant of the entry has no byte from offset `start` up to offset `stop`. -/
def Entry.ApartFrom (entry : Entry) (start stop : Nat) : Prop :=
  entry.stop ≤ start ∨ stop ≤ entry.start

instance (entry : Entry) (start stop : Nat) : Decidable (entry.ApartFrom start stop) :=
  inferInstanceAs (Decidable (_ ∨ _))

/-! ### One step -/

/-- The patch that entry number `index` of the table asks for. -/
def Survey.patchAt (found : Survey) (mode : AddressingMode) (a : Adjustment) (storage : Storage)
    (index : Nat) : Patch :=
  let entry := found.entryAt storage index
  let before := storage.field entry.start entry.length.toNat
  ⟨index, entry, before, mode.adjust before entry.length.toNat a⟩

/-- The storage with the patch made. -/
def Patch.apply (patch : Patch) (storage : Storage) : Storage :=
  storage.put patch.entry.start (Doubleword.toBytes patch.entry.length.toNat patch.after)

/-- The storage with the address constant of an entry adjusted. -/
def Entry.adjustIn (entry : Entry) (mode : AddressingMode) (a : Adjustment) (storage : Storage) :
    Storage :=
  storage.put entry.start (Doubleword.toBytes entry.length.toNat
    (mode.adjust (storage.field entry.start entry.length.toNat) entry.length.toNat a))

/-- The patch that an entry asks for adjusts its address constant. -/
lemma Survey.apply_patchAt (found : Survey) (mode : AddressingMode) (a : Adjustment)
    (storage : Storage) (index : Nat) :
    (found.patchAt mode a storage index).apply storage =
      (found.entryAt storage index).adjustIn mode a storage :=
  rfl

/-- The storage with the address constants of a list of entries adjusted, one after the other. -/
def Entry.adjustAll (mode : AddressingMode) (a : Adjustment) (entries : List Entry)
    (storage : Storage) : Storage :=
  entries.foldl (fun storage entry => entry.adjustIn mode a storage) storage

/-- An entry without fault describes bytes of the region. -/
lemma Entry.stop_le_of_fault? {entry : Entry} {regionSize index : Nat}
    (h : entry.fault? regionSize index = none) : entry.stop ≤ regionSize := by
  unfold Entry.fault? at h
  split at h
  · cases h
  split at h
  · cases h
  · omega

section Step

variable {found : Survey} {mode : AddressingMode} {region : Region} {table : Doubleword}
  {a : Adjustment} {storage : Storage} {index : Nat}

/-- No mode has pointers of more than eight bytes. -/
lemma pointerSize_le_eight (mode : AddressingMode) : mode.pointerSize ≤ 8 := by
  cases mode <;> decide

/-- The bytes of an address constant that is written back end where the entry ends. -/
lemma Patch.start_add_length (patch : Patch) :
    patch.entry.start + (Doubleword.toBytes patch.entry.length.toNat patch.after).length =
      patch.entry.stop := by
  rw [Doubleword.length_toBytes]
  rfl

/-- A patch keeps the length of the storage. -/
lemma Patch.length_apply {patch : Patch} (h : patch.entry.stop ≤ storage.length) :
    (patch.apply storage).length = storage.length :=
  Storage.length_put (patch.start_add_length.trans_le h)

/-- A patch leaves alone what its entry does not describe. -/
lemma Patch.agreesOn_apply {patch : Patch} (h : patch.entry.stop ≤ storage.length)
    {start stop : Nat} (hapart : patch.entry.ApartFrom start stop) :
    (patch.apply storage).AgreesOn storage start stop := by
  apply Storage.AgreesOn.put
  · rwa [patch.start_add_length]
  · rwa [patch.start_add_length]

/-- The field of a patch holds the new value. -/
lemma Patch.part_apply {patch : Patch} (h : patch.entry.stop ≤ storage.length) :
    (patch.apply storage).part patch.entry.start patch.entry.length.toNat =
      Doubleword.toBytes patch.entry.length.toNat patch.after := by
  have hput := Storage.part_put (patch.start_add_length.trans_le h)
  rwa [Doubleword.length_toBytes] at hput

/-- What happens to entry number `index`: it is turned down for its fault or patched. -/
theorem patchEntry_eq (h : found.Usable mode region table)
    (hinside : found.listOffset + found.listLength ≤ storage.length)
    (hindex : index < found.entryCount) :
    patchEntry mode found a index storage =
      .ok (match (found.entryAt storage index).fault? storage.length index with
        | some refusal => .error refusal
        | none => .ok (found.patchAt mode a storage index,
            (found.patchAt mode a storage index).apply storage)) := by
  have hentry := Survey.entry_inside hindex
  have hwidth := h.length_entryAt_le storage index
  have hslice := Storage.slice_eq (by omega :
    found.listOffset + index * found.codec.entrySize + found.codec.entrySize ≤ storage.length)
  dsimp only [patchEntry]
  rw [hslice, Checked.ok_bind, Survey.read_entryAt (by omega), Checked.ok_bind,
    checkEntry_eq hwidth]
  cases hfault : (found.entryAt storage index).fault? storage.length index with
  | some refusal => rfl
  | none =>
    have hstop : (found.entryAt storage index).start +
        (found.entryAt storage index).length.toNat ≤ storage.length :=
      Entry.stop_le_of_fault? hfault
    have height := hwidth.trans (pointerSize_le_eight mode)
    simp only [Option.elim_none, Storage.fetch_eq hstop height, Storage.store_eq hstop height,
      Checked.ok_bind]
    rfl

end Step

/-! ### Adjusting fields -/

section Adjusting

variable {entry : Entry} {entries : List Entry} {mode : AddressingMode} {a : Adjustment}
  {s t : Storage}

/-- Adjusting an address constant keeps the length of the storage. -/
lemma Entry.length_adjustIn (h : entry.stop ≤ s.length) :
    (entry.adjustIn mode a s).length = s.length :=
  Storage.length_put (by rwa [Doubleword.length_toBytes])

/-- Storage that agrees on the field of an entry, and maybe on more, still does when the field is
adjusted. -/
lemma Entry.agreesOn_adjustIn {start stop : Nat} (h : s.AgreesOn t start stop)
    (hstart : start ≤ entry.start) (hstop : entry.stop ≤ stop) (hs : stop ≤ s.length)
    (ht : stop ≤ t.length) :
    (entry.adjustIn mode a s).AgreesOn (entry.adjustIn mode a t) start stop := by
  rw [adjustIn, adjustIn, h.field_eq hstart hstop]
  apply h.put_both
  · rw [Doubleword.length_toBytes]
    exact hstop.trans hs
  · rw [Doubleword.length_toBytes]
    exact hstop.trans ht

/-- Storage that agrees on the fields of all entries, and maybe on more, still does when all of them
are adjusted. -/
theorem Entry.agreesOn_adjustAll {start stop : Nat} (h : s.AgreesOn t start stop)
    (hinside : ∀ entry ∈ entries, start ≤ entry.start ∧ entry.stop ≤ stop) (hs : stop ≤ s.length)
    (ht : stop ≤ t.length) :
    (adjustAll mode a entries s).AgreesOn (adjustAll mode a entries t) start stop := by
  induction entries generalizing s t with
  | nil => exact h
  | cons entry entries ih =>
    obtain ⟨⟨hstart, hstop⟩, hrest⟩ := List.forall_mem_cons.mp hinside
    refine ih (agreesOn_adjustIn h hstart hstop hs ht) hrest ?_ ?_
    · rwa [length_adjustIn (hstop.trans hs)]
    · rwa [length_adjustIn (hstop.trans ht)]

end Adjusting

/-! ### Whole runs -/

/-- What becomes of `count` entries, the first of them being number `index`, when the loop starts
with the given storage. -/
inductive PatchRun (mode : AddressingMode) (found : Survey) (a : Adjustment) :
    (count index : Nat) → Storage → Patching → Prop
  /-- There are no entries left. -/
  | done (index : Nat) (storage : Storage) :
      PatchRun mode found a 0 index storage ⟨storage, [], none⟩
  /-- The next entry is at fault. -/
  | refused {count index : Nat} {storage : Storage} {refusal : Refusal}
      (fault : (found.entryAt storage index).fault? storage.length index = some refusal) :
      PatchRun mode found a (count + 1) index storage ⟨storage, [], some refusal⟩
  /-- The address constant of the next entry is adjusted, and the loop goes on. -/
  | step {count index : Nat} {storage : Storage} {rest : Patching}
      (faultless : (found.entryAt storage index).fault? storage.length index = none)
      (tail : PatchRun mode found a count (index + 1)
        ((found.patchAt mode a storage index).apply storage) rest) :
      PatchRun mode found a (count + 1) index storage
        { rest with patches := found.patchAt mode a storage index :: rest.patches }

/-- The loop is never stopped, and what it does is a run. -/
theorem exists_patchRun {found : Survey} {mode : AddressingMode} {region : Region}
    {table : Doubleword} (h : found.Usable mode region table) (a : Adjustment) (count index : Nat)
    (storage : Storage) (hinside : found.listOffset + found.listLength ≤ storage.length)
    (hbound : index + count ≤ found.entryCount) :
    ∃ patching, patchEntries mode found a count index storage = .ok patching ∧
      PatchRun mode found a count index storage patching := by
  induction count generalizing index storage with
  | zero => exact ⟨_, rfl, PatchRun.done index storage⟩
  | succ count ih =>
    have hentry := patchEntry_eq (a := a) h hinside (by omega : index < found.entryCount)
    cases hfault : (found.entryAt storage index).fault? storage.length index with
    | some refusal =>
      rw [hfault] at hentry
      refine ⟨_, ?_, PatchRun.refused hfault⟩
      rw [patchEntries, hentry]
      rfl
    | none =>
      rw [hfault] at hentry
      have hlength : ((found.patchAt mode a storage index).apply storage).length =
          storage.length := Patch.length_apply (Entry.stop_le_of_fault? hfault)
      obtain ⟨rest, hrest, hrun⟩ := ih (index + 1) _ (hinside.trans_eq hlength.symm) (by omega)
      refine ⟨_, ?_, PatchRun.step hfault hrun⟩
      rw [patchEntries, hentry, Checked.ok_bind]
      simp only [hrest, Checked.ok_bind, Checked.pure_eq_ok]

namespace PatchRun

variable {mode : AddressingMode} {found : Survey} {a : Adjustment} {count index : Nat}
  {storage : Storage} {patching : Patching}

/-- A run keeps the length of the storage. -/
lemma length_eq (h : PatchRun mode found a count index storage patching) :
    patching.storage.length = storage.length := by
  induction h with
  | done index storage => rfl
  | refused fault => rfl
  | step faultless tail ih =>
    exact ih.trans (Patch.length_apply (Entry.stop_le_of_fault? faultless))

/-- A run that is not refused patches every entry. -/
lemma length_patches (h : PatchRun mode found a count index storage patching)
    (hrefusal : patching.refusal = none) : patching.patches.length = count := by
  induction h with
  | done index storage => rfl
  | refused fault => cases hrefusal
  | step faultless tail ih => rw [List.length_cons, ih hrefusal]

/-- A run leaves alone what none of its patches describes. -/
theorem agreesOn (h : PatchRun mode found a count index storage patching) {start stop : Nat}
    (hapart : ∀ patch ∈ patching.patches, patch.entry.ApartFrom start stop) :
    patching.storage.AgreesOn storage start stop := by
  induction h with
  | done index storage => exact Storage.AgreesOn.refl storage start stop
  | refused fault => exact Storage.AgreesOn.refl _ start stop
  | step faultless tail ih =>
    have hfirst := Patch.agreesOn_apply (Entry.stop_le_of_fault? faultless)
      (hapart _ List.mem_cons_self)
    have hrest := ih (fun patch hpatch => hapart patch (List.mem_cons_of_mem _ hpatch))
    exact hrest.trans hfirst

/-- A run adjusts the address constants of its patches, one after the other. -/
lemma storage_eq_adjustAll (h : PatchRun mode found a count index storage patching) :
    patching.storage = Entry.adjustAll mode a (patching.patches.map Patch.entry) storage := by
  induction h with
  | done index storage => rfl
  | refused fault => rfl
  | step faultless tail ih => exact ih

/-- A list that none of its own entries describes is used as it was found: if no entry is at fault
at the start, no entry is turned down, and the entries patched are those of the list.  The list
stays the same from step to step, so each entry is decoded as it would have been at the start. -/
theorem of_list_apart (h : PatchRun mode found a count index storage patching)
    (hbound : index + count ≤ found.entryCount)
    (hapart : ∀ i, index ≤ i → i < index + count → (found.entryAt storage i).ApartFrom
      found.listOffset (found.listOffset + found.listLength))
    (hfault : ∀ i, index ≤ i → i < index + count →
      (found.entryAt storage i).fault? storage.length i = none) :
    patching.refusal = none ∧
      patching.patches.map Patch.entry = (List.range' index count).map (found.entryAt storage) := by
  induction h with
  | done index storage => exact ⟨rfl, rfl⟩
  | refused fault =>
    rw [hfault _ le_rfl (by omega)] at fault
    cases fault
  | @step count index storage rest faultless tail ih =>
    have hstop := Entry.stop_le_of_fault? faultless
    have hagrees : ((found.patchAt mode a storage index).apply storage).AgreesOn storage
        found.listOffset (found.listOffset + found.listLength) :=
      Patch.agreesOn_apply hstop (hapart index le_rfl (by omega))
    have hlength : ((found.patchAt mode a storage index).apply storage).length = storage.length :=
      Patch.length_apply hstop
    have hentry (i : Nat) (hi : i < index + (count + 1)) :=
      Survey.entryAt_congr hagrees (by omega : i < found.entryCount)
    obtain ⟨hrefusal, hentries⟩ := ih (by omega)
      (fun i hi hi' => by
        rw [hentry i (by omega)]
        exact hapart i (by omega) (by omega))
      (fun i hi hi' => by
        rw [hentry i (by omega), hlength]
        exact hfault i (by omega) (by omega))
    refine ⟨hrefusal, ?_⟩
    rw [List.map_cons, hentries, List.range'_succ, List.map_cons]
    congr 1
    apply List.map_congr_left
    intro i hi
    rw [List.mem_range'_1] at hi
    exact hentry i (by omega)

/-- When no two patches overlap, every patched field ends with its original contents adjusted
once. -/
theorem part_eq_of_pairwise (h : PatchRun mode found a count index storage patching)
    (hpairwise : patching.patches.Pairwise
      fun p q => p.entry.ApartFrom q.entry.start q.entry.stop)
    {patch : Patch} (hpatch : patch ∈ patching.patches) :
    patching.storage.part patch.entry.start patch.entry.length.toNat =
      Doubleword.toBytes patch.entry.length.toNat
        (mode.adjust (storage.field patch.entry.start patch.entry.length.toNat)
          patch.entry.length.toNat a) := by
  induction h with
  | done index storage => cases hpatch
  | refused fault => cases hpatch
  | @step count index storage rest faultless tail ih =>
    have hstop := Entry.stop_le_of_fault? faultless
    obtain ⟨hfirst, hrest⟩ := List.pairwise_cons.mp hpairwise
    rcases List.mem_cons.mp hpatch with rfl | hmem
    · -- the later patches leave this field alone
      have hagrees := tail.agreesOn (fun q hq => (hfirst q hq).symm)
      rw [hagrees.part_eq le_rfl le_rfl]
      exact Patch.part_apply hstop
    · -- this patch finds its field as it was at the start
      have hagrees : ((found.patchAt mode a storage index).apply storage).AgreesOn storage
          patch.entry.start patch.entry.stop := Patch.agreesOn_apply hstop (hfirst patch hmem)
      rw [ih hrest hmem, hagrees.field_eq le_rfl le_rfl]

end PatchRun

end Relocation
