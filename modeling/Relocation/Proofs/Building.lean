import Relocation.Image
import Relocation.Proofs.AddressArithmetic
import Relocation.Proofs.Survey

/-!
# What a builder builds

A draft takes address constants one after the other; some are accepted, others refused.  This file
says what each request can do.  `Draft.openTable_cases`, `Draft.addEntry_cases` and
`Draft.closeTable_cases` list the answers with the draft that goes with each of them, and
`Region.withTable_eq_ok` says where region and table stand in the image.
-/

namespace Relocation

/-! ### Packed lists -/

namespace EntryCodec

variable {codec : EntryCodec}

/-- The bytes of a list of entries. -/
def packList (codec : EntryCodec) (entries : List Entry) : Storage :=
  entries.flatMap fun entry =>
    Doubleword.toBytes codec.entrySize ((codec.encode? entry).getD 0)

/-- The entries of a list are packed one after the other. -/
lemma packList_cons (entry : Entry) (entries : List Entry) :
    codec.packList (entry :: entries) =
      Doubleword.toBytes codec.entrySize ((codec.encode? entry).getD 0) ++
        codec.packList entries :=
  List.flatMap_cons

/-- Every entry takes the bytes of one entry. -/
lemma length_packList (entries : List Entry) :
    (codec.packList entries).length = entries.length * codec.entrySize := by
  induction entries with
  | nil => simp [packList]
  | cons entry entries ih =>
    rw [packList_cons, List.length_append, Doubleword.length_toBytes, ih, List.length_cons,
      Nat.succ_mul, Nat.add_comm]

/-- Entry number `i` of a packed list is entry number `i` of the list. -/
theorem unpack_field_packList {entries : List Entry} (h : ∀ entry ∈ entries, codec.Fits entry)
    {i : Nat} (hi : i < entries.length) :
    codec.unpack ((codec.packList entries).field (i * codec.entrySize) codec.entrySize) =
      entries[i] := by
  induction entries generalizing i with
  | nil => cases hi
  | cons entry entries ih =>
    rw [packList_cons]
    cases i with
    | zero =>
      obtain ⟨packed, hpacked⟩ : ∃ packed, codec.encode? entry = some packed := by
        have hfits := h entry List.mem_cons_self
        have htoNat := toNat_pack hfits
        exact ⟨_, encode?_eq_some_iff.mpr ⟨hfits, htoNat⟩⟩
      have hall := Storage.part_all (Doubleword.toBytes codec.entrySize packed)
      rw [Doubleword.length_toBytes] at hall
      rw [hpacked, Option.getD_some, Nat.zero_mul, Storage.field,
        Storage.part_append_left (by simp), hall]
      exact unpack_ofBytes_toBytes hpacked
    | succ i =>
      have hpart := Storage.part_append_right
        (Doubleword.toBytes codec.entrySize ((codec.encode? entry).getD 0))
        (codec.packList entries) (i * codec.entrySize) codec.entrySize
      rw [Doubleword.length_toBytes] at hpart
      rw [Nat.succ_mul, Nat.add_comm, Storage.field, hpart]
      exact ih (fun e he => h e (List.mem_cons_of_mem _ he)) (by simpa using hi)

/-- The list reader gives back the entries of a packed list, in order. -/
theorem readList_packList {entries : List Entry} (h : ∀ entry ∈ entries, codec.Fits entry) :
    codec.readList (codec.packList entries) = .ok entries := by
  have hcount : (codec.packList entries).length / codec.entrySize = entries.length := by
    rw [length_packList, Nat.mul_div_cancel _ codec.entrySize_pos]
  rw [readList_eq]
  congr 1
  apply List.ext_getElem
  · rw [List.length_map, Storage.pieces, List.length_map, List.length_range, hcount]
  · intro i hi hi'
    rw [List.getElem_map, ← unpack_field_packList h hi']
    simp only [Storage.pieces, List.getElem_map, List.getElem_range]
    rfl

end EntryCodec

/-- The open table with the packed entries at the end of its list. -/
def OpenTable.extend (table : OpenTable) (entries : List Entry) : OpenTable :=
  { table with entries := table.entries ++ table.codec.packList entries }

namespace OpenTable

/-- Without entries nothing is added. -/
lemma extend_nil (table : OpenTable) : table.extend [] = table := by
  simp [extend, EntryCodec.packList]

/-- Entries that are added one after the other stand one behind the other. -/
lemma extend_extend (table : OpenTable) (entries more : List Entry) :
    (table.extend entries).extend more = table.extend (entries ++ more) := by
  simp [extend, EntryCodec.packList]

end OpenTable

/-! ### Accepted entries -/

/-- The address further on is given exactly when it needs no more than 64 bits. -/
lemma Doubleword.advance?_eq_some_iff {a b : Doubleword} {n : Nat} :
    a.advance? n = some b ↔ b.toNat = a.toNat + n := by
  unfold advance?
  split
  · rename_i h
    have hsum : (UInt64.ofNat (a.toNat + n)).toNat = a.toNat + n := UInt64.toNat_ofNat_of_lt' h
    rw [Option.some_inj, ← UInt64.toNat_inj, hsum, eq_comm]
  · rename_i h
    have hlt : b.toNat < UInt64.size := b.toNat_lt
    simp only [reduceCtorEq, false_iff]
    omega

/-- The sum is given exactly when it needs no more than 64 bits. -/
lemma Doubleword.add?_eq_some_iff {a b c : Doubleword} :
    a.add? b = some c ↔ c.toNat = a.toNat + b.toNat := by
  have hadvance : a.add? b = a.advance? b.toNat := by
    unfold add? advance?
    rw [UInt64.ofNat_add, UInt64.ofNat_toNat, UInt64.ofNat_toNat]
  rw [hadvance, advance?_eq_some_iff]

/-- Clearing the low-order three bits rounds down to a multiple of eight. -/
lemma Doubleword.toNat_and_not_seven (a : Doubleword) : (a &&& ~~~7).toNat = a.toNat / 8 * 8 := by
  have hmask : (~~~7 : Doubleword).toNat = (2 ^ 61 - 1) <<< 3 := by decide
  rw [toNat_and_highMask hmask, Nat.mod_eq_of_lt a.toNat_lt, Nat.shiftLeft_eq]
  norm_num

/-- The doubleword boundary at or above an address, as a number. -/
lemma Doubleword.toNat_of_alignUp {a b : Doubleword} (h : a.alignUp 8 = .ok (some b)) :
    b.toNat = (a.toNat + 7) / 8 * 8 := by
  have hpower : Doubleword.isPowerOfTwo 8 = true := by decide
  rw [alignUp, if_pos hpower, Except.ok.injEq, Option.map_eq_some_iff] at h
  obtain ⟨sum, hsum, rfl⟩ := h
  have hadd : sum.toNat = a.toNat + 7 := add?_eq_some_iff.mp hsum
  rw [← hadd]
  exact toNat_and_not_seven sum

/-- A difference that was not stopped is one of values in order. -/
lemma Doubleword.difference_eq_ok {a b c : Doubleword} (h : a.difference b = .ok c) :
    b ≤ a ∧ c = a - b := by
  unfold difference at h
  split at h
  · rename_i hle
    cases h
    exact ⟨hle, rfl⟩
  · cases h

/-- What is known of an entry that a draft of this mode has accepted for a region of the given
size: it can be packed, is at least two bytes and at most a pointer wide, and lies in the region. -/
structure Entry.Admitted (entry : Entry) (mode : AddressingMode) (codec : EntryCodec)
    (regionSize : Nat) : Prop where
  fits : codec.Fits entry
  two_le : 2 ≤ entry.length.toNat
  length_le : entry.length.toNat ≤ mode.pointerSize
  stop_le : entry.stop ≤ regionSize

namespace Draft

/-- A field that was asked for has at least two bytes. -/
lemma two_le_of_requestedField {constant : AddressConstant} {field : Field}
    (h : requestedField constant = .ok field) : 2 ≤ field.width.toNat := by
  unfold requestedField at h
  split at h
  · cases h
  split at h
  · cases h
  rename_i hwidth
  split at h
  · cases h
  · cases h
    exact not_lt.mp hwidth

/-- A field is described as it is, or by its low-order three bytes when it has four and addresses
have 24 bits. -/
lemma fit?_cases {mode : AddressingMode} {field fitted : Field}
    (h : mode.fit? field = some fitted) :
    fitted = field ∧ field.width.toNat ≤ mode.pointerSize ∨
      mode = .bits24 ∧ field.width = 4 ∧ fitted.width = 3 ∧
        fitted.displacement.toNat = field.displacement.toNat + 1 := by
  unfold AddressingMode.fit? at h
  split at h
  · rename_i hnarrows
    obtain ⟨displacement, hdisplacement, rfl⟩ := Option.map_eq_some_iff.mp h
    simp only [AddressingMode.narrows, Bool.and_eq_true, beq_iff_eq] at hnarrows
    exact Or.inr ⟨hnarrows.1, hnarrows.2, rfl, Doubleword.add?_eq_some_iff.mp hdisplacement⟩
  · split at h
    · cases h
    · rename_i hwidth
      cases h
      rw [UInt8.lt_iff_toNat_lt, toNat_maxFieldWidth, not_lt] at hwidth
      exact Or.inl ⟨rfl, hwidth⟩

/-- The part of a field that is described has at least two bytes and is not wider than a pointer. -/
lemma width_of_fit? {mode : AddressingMode} {field fitted : Field} (htwo : 2 ≤ field.width.toNat)
    (h : mode.fit? field = some fitted) :
    2 ≤ fitted.width.toNat ∧ fitted.width.toNat ≤ mode.pointerSize := by
  rcases fit?_cases h with ⟨rfl, hwidth⟩ | ⟨rfl, -, hthree, -⟩
  · exact ⟨htwo, hwidth⟩
  · rw [hthree]
    decide

/-- The entry for a field has the width of the field, stands as far from the label as the field and
ends in the region. -/
lemma entryWithin?_eq_some {base regionSize : Doubleword} {label : Label} {field : Field}
    {entry : Entry} (h : entryWithin? base regionSize label field = some entry) :
    entry.length = field.width ∧
      entry.displacement.toNat = (label.address - base).toNat + field.displacement.toNat ∧
      entry.stop ≤ regionSize.toNat := by
  simp only [entryWithin?, Option.bind_eq_bind, Option.bind_eq_some_iff] at h
  obtain ⟨offset, hoffset, displacement, hdisplacement, stop, hstop, h⟩ := h
  split at h
  · rename_i hle
    cases h
    obtain ⟨-, rfl⟩ := Doubleword.sub?_eq_some_iff.mp hoffset
    have hsum := Doubleword.add?_eq_some_iff.mp hstop
    rw [UInt8.toNat_toUInt64] at hsum
    rw [UInt64.le_iff_toNat_le, hsum] at hle
    exact ⟨rfl, Doubleword.add?_eq_some_iff.mp hdisplacement, hle⟩
  · cases h

/-- The entry that a draft makes of an address constant, whether or not it can be packed. -/
def entryFor? (draft : Draft) (constant : AddressConstant) : Option Entry :=
  match requestedField constant with
  | .error _ => none
  | .ok requested =>
    (draft.mode.fit? requested).bind
      (entryWithin? draft.assembledBase (draft.locationCounter - draft.assembledBase)
        constant.label)

variable {draft : Draft} {table : OpenTable}

/-- An entry is made of an address constant when its field can be described and lies in the
region. -/
lemma entryFor?_eq_some_iff {constant : AddressConstant} {entry : Entry} :
    draft.entryFor? constant = some entry ↔
      ∃ requested field, requestedField constant = .ok requested ∧
        draft.mode.fit? requested = some field ∧
        entryWithin? draft.assembledBase (draft.locationCounter - draft.assembledBase)
          constant.label field = some entry := by
  unfold entryFor?
  cases requestedField constant with
  | error e => simp
  | ok requested => simp [Option.bind_eq_some_iff]

/-- A field that is not asked for is refused for its width or its place, never for the displacement
of an entry. -/
lemma ne_displacementTooLarge_of_requestedField {constant : AddressConstant} {e : BuildError}
    (h : requestedField constant = .error e) (name : String) (displacement max : Doubleword) :
    e ≠ .displacementTooLarge name displacement max := by
  rintro rfl
  unfold requestedField AddressConstant.field at h
  cases hwidth : constant.request.width? constant.label with
  | none => simp [hwidth] at h
  | some width =>
    simp only [hwidth] at h
    split at h
    · cases h
    split at h
    · cases h
    · cases h

/-- Packing an address constant gives its entry, refuses the entry for its displacement, or makes no
entry and gives another reason. -/
lemma pack_cases (hle : draft.assembledBase ≤ draft.locationCounter) (table : OpenTable)
    (constant : AddressConstant) :
    (∃ entry packed, draft.entryFor? constant = some entry ∧
      table.codec.encode? entry = some packed ∧
      draft.pack table constant = .ok (.ok (entry, packed))) ∨
    (∃ entry, draft.entryFor? constant = some entry ∧ table.codec.encode? entry = none ∧
      draft.pack table constant = .ok (.error (.displacementTooLarge constant.label.name
        entry.displacement table.codec.maxDisplacement))) ∨
    ∃ e, draft.entryFor? constant = none ∧
      (∀ name displacement max, e ≠ .displacementTooLarge name displacement max) ∧
      draft.pack table constant = .ok (.error e) := by
  have hdifference : draft.locationCounter.difference draft.assembledBase =
      .ok (draft.locationCounter - draft.assembledBase) := if_pos hle
  unfold pack entryFor?
  cases hrequested : requestedField constant with
  | error e =>
    exact Or.inr (Or.inr ⟨e, rfl, ne_displacementTooLarge_of_requestedField hrequested, rfl⟩)
  | ok requested =>
    dsimp only
    cases hfitted : draft.mode.fit? requested with
    | none => exact Or.inr (Or.inr ⟨_, rfl, fun _ _ _ => by simp, rfl⟩)
    | some fitted =>
      dsimp only
      rw [hdifference, Checked.ok_bind, Option.bind_some]
      cases hentry : entryWithin? draft.assembledBase
          (draft.locationCounter - draft.assembledBase) constant.label fitted with
      | none => exact Or.inr (Or.inr ⟨_, rfl, fun _ _ _ => by simp, rfl⟩)
      | some entry =>
        dsimp only
        cases hpacked : table.codec.encode? entry with
        | none => exact Or.inr (Or.inl ⟨entry, rfl, hpacked, rfl⟩)
        | some packed => exact Or.inl ⟨entry, packed, rfl, hpacked, rfl⟩

/-- An entry that was made of an address constant and can be packed is admitted. -/
lemma admitted_of_entryFor? {constant : AddressConstant} {entry : Entry} {packed : Doubleword}
    (hle : draft.assembledBase ≤ draft.locationCounter)
    (hentry : draft.entryFor? constant = some entry)
    (hpacked : table.codec.encode? entry = some packed) :
    entry.Admitted draft.mode table.codec
      (draft.locationCounter.toNat - draft.assembledBase.toNat) := by
  obtain ⟨requested, field, hrequested, hfield, hwithin⟩ := entryFor?_eq_some_iff.mp hentry
  obtain ⟨hlength, -, hstop⟩ := entryWithin?_eq_some hwithin
  obtain ⟨htwo, hwidth⟩ := width_of_fit? (two_le_of_requestedField hrequested) hfield
  rw [← hlength] at htwo hwidth
  exact ⟨(EntryCodec.encode?_eq_some_iff.mp hpacked).1, htwo, hwidth,
    hstop.trans_eq (UInt64.toNat_sub_of_le _ _ hle)⟩

/-! ### Answers to a request -/

/-- An open draft accepts an address constant, whose packed entry goes to the end of the list, or
refuses it and stays as it was: for the displacement of its entry, or because it makes no entry of
it.  It is never stopped. -/
theorem addEntry_cases (hle : draft.assembledBase ≤ draft.locationCounter)
    (hstate : draft.state = .opened table) (constant : AddressConstant) :
    (∃ entry packed, draft.entryFor? constant = some entry ∧
      table.codec.encode? entry = some packed ∧
      draft.addEntry constant =
        .ok (.ok entry, { draft with state := .opened (table.extend [entry]) })) ∨
    (∃ entry, draft.entryFor? constant = some entry ∧ table.codec.encode? entry = none ∧
      draft.addEntry constant = .ok (.error (.displacementTooLarge constant.label.name
        entry.displacement table.codec.maxDisplacement), draft)) ∨
    ∃ e, draft.entryFor? constant = none ∧
      (∀ name displacement max, e ≠ .displacementTooLarge name displacement max) ∧
      draft.addEntry constant = .ok (.error e, draft) := by
  unfold addEntry
  simp only [hstate]
  rcases pack_cases hle table constant with
    ⟨entry, packed, hentry, hpacked, hpack⟩ | ⟨entry, hentry, hpacked, hpack⟩ |
      ⟨e, hnone, hother, hpack⟩
  · refine Or.inl ⟨entry, packed, hentry, hpacked, ?_⟩
    simp [hpack, EntryCodec.write_eq, OpenTable.extend, EntryCodec.packList, hpacked]
  · refine Or.inr (Or.inl ⟨entry, hentry, hpacked, ?_⟩)
    rw [hpack]
    rfl
  · refine Or.inr (Or.inr ⟨e, hnone, hother, ?_⟩)
    rw [hpack]
    rfl

/-- An idle draft opens its table with an empty list, if the entry size is one of the mode.  In all
other cases the request is refused and the draft stays as it was. -/
theorem openTable_cases (draft : Draft) (entrySize : UInt8) (transfer : Option Doubleword) :
    (∃ codec : EntryCodec, draft.state = .idle ∧ codec.entrySize = entrySize.toNat ∧
      codec.lengthBits = draft.mode.lengthBits ∧
      draft.openTable entrySize transfer =
        (.ok (), { draft with state := .opened ⟨codec, transfer.getD 0, []⟩ })) ∨
    ∃ e, draft.openTable entrySize transfer = (.error e, draft) := by
  unfold openTable
  cases hstate : draft.state with
  | opened table => exact Or.inr ⟨_, rfl⟩
  | closed => exact Or.inr ⟨_, rfl⟩
  | idle =>
    dsimp only
    cases hcodec : EntryCodec.of? entrySize.toNat draft.mode.lengthBits with
    | none => exact Or.inr ⟨_, rfl⟩
    | some codec =>
      obtain ⟨hsize, hbits⟩ := EntryCodec.of?_eq_some_iff.mp hcodec
      exact Or.inl ⟨codec, rfl, hsize, hbits, rfl⟩

/-- A table that was opened has an empty list. -/
lemma openTable_eq_ok {entrySize : UInt8} {transfer : Option Doubleword} {opened : Draft}
    (h : draft.openTable entrySize transfer = (.ok (), opened)) :
    ∃ codec : EntryCodec, codec.entrySize = entrySize.toNat ∧
      codec.lengthBits = draft.mode.lengthBits ∧
      opened = { draft with state := .opened ⟨codec, transfer.getD 0, []⟩ } := by
  rcases draft.openTable_cases entrySize transfer with
    ⟨codec, -, hsize, hbits, hopen⟩ | ⟨e, hopen⟩
  · rw [hopen] at h
    cases h
    exact ⟨codec, hsize, hbits, rfl⟩
  · rw [hopen] at h
    cases h

end Draft

/-! ### Closed tables -/

attribute [ext] Header

/-- The built table is an open table of this mode and assembled base, laid out behind a header. -/
structure BuiltTable.LaysOut (built : BuiltTable) (mode : AddressingMode)
    (assembledBase : Doubleword) (table : OpenTable) : Prop where
  entries : built.entries = table.entries
  pointerSize : built.pointerSize = mode.pointerSize
  eyecatcher : built.header.eyecatcher = Header.mark
  assembledBase : built.header.assembledBase = assembledBase
  transferAddress : built.header.transferAddress = table.transferAddress
  entrySize : built.header.entrySize = UInt8.ofNat table.codec.entrySize
  registerWidth : built.header.registerWidth = UInt8.ofNat mode.pointerSize
  status : built.header.status = .notStarted
  firstEntry : built.header.firstEntry.toNat = built.address.toNat + Header.size mode.pointerSize
  listEnd : built.header.listEnd.toNat = built.header.firstEntry.toNat + table.entries.length

namespace BuiltTable.LaysOut

variable {built : BuiltTable} {mode : AddressingMode} {assembledBase : Doubleword}
  {table : OpenTable}

/-- The entry size of the header is that of the codec. -/
lemma toNat_entrySize (h : built.LaysOut mode assembledBase table) :
    built.header.entrySize.toNat = table.codec.entrySize := by
  have hle := table.codec.entrySize_le
  rw [h.entrySize]
  exact UInt8.toNat_ofNat_of_lt' (by simp only [UInt8.size]; omega)

/-- The header tells the codec, if the codec is one of the mode. -/
lemma codec?_eq (h : built.LaysOut mode assembledBase table)
    (hbits : table.codec.lengthBits = mode.lengthBits) :
    built.header.codec? = some table.codec := by
  refine Header.codec?_eq_some_iff.mpr ⟨h.toNat_entrySize.symm, ?_⟩
  rw [h.registerWidth, hbits]
  cases mode <;> decide

/-- The header follows from the address, the base, the pointers and what the open table has. -/
lemma header_eq {built' : BuiltTable} {mode' : AddressingMode} {table' : OpenTable}
    (h : built.LaysOut mode assembledBase table) (h' : built'.LaysOut mode' assembledBase table')
    (haddress : built.address = built'.address) (hpointer : mode.pointerSize = mode'.pointerSize)
    (hsize : table.codec.entrySize = table'.codec.entrySize)
    (htransfer : table.transferAddress = table'.transferAddress)
    (hlength : table.entries.length = table'.entries.length) : built.header = built'.header := by
  have hfirst : built.header.firstEntry = built'.header.firstEntry := by
    apply UInt64.toNat_inj.mp
    rw [h.firstEntry, h'.firstEntry, haddress, hpointer]
  have hend : built.header.listEnd = built'.header.listEnd := by
    apply UInt64.toNat_inj.mp
    rw [h.listEnd, h'.listEnd, hfirst, hlength]
  ext1
  · rw [h.eyecatcher, h'.eyecatcher]
  · rw [h.assembledBase, h'.assembledBase]
  · rw [h.transferAddress, h'.transferAddress, htransfer]
  · exact hfirst
  · rw [h.entrySize, h'.entrySize, hsize]
  · exact (UInt64.add_left_inj 1).mp hend
  · rw [h.registerWidth, h'.registerWidth, hpointer]
  · rw [h.status, h'.status]

end BuiltTable.LaysOut

namespace Draft

variable {draft : Draft} {table : OpenTable} {placement : Placement} {built : BuiltTable}

/-- A table that was laid out starts at the address and has its list behind its header, below the
top of storage. -/
lemma layOutAt?_eq_some {address : Doubleword} (h : draft.layOutAt? table address = some built) :
    built.address = address ∧ built.LaysOut draft.mode draft.assembledBase table := by
  simp only [layOutAt?, Option.bind_eq_bind, Option.bind_eq_some_iff, Option.pure_def,
    Option.some_inj] at h
  obtain ⟨firstEntry, hfirst, stop, hstop, rfl⟩ := h
  refine ⟨rfl, rfl, rfl, rfl, rfl, rfl, rfl, rfl, rfl, ?_, ?_⟩
  · exact Doubleword.advance?_eq_some_iff.mp hfirst
  · change (stop - 1 + 1).toNat = firstEntry.toNat + table.entries.length
    rw [UInt64.sub_add_cancel]
    exact Doubleword.advance?_eq_some_iff.mp hstop

/-- A placement gives an address or none, and is never stopped. -/
lemma exists_tableAddress (draft : Draft) (placement : Placement) :
    ∃ address, draft.tableAddress placement = .ok address := by
  cases placement with
  | append =>
    have hpower : Doubleword.isPowerOfTwo 8 = true := by decide
    rw [tableAddress, Doubleword.alignUp, if_pos hpower]
    exact ⟨_, rfl⟩
  | separate address => exact ⟨_, rfl⟩

/-- The location counter behind a closed table: it moves past a table that is appended and stays
where it is for a table elsewhere. -/
def counterAfter (draft : Draft) (built : BuiltTable) : Placement → Doubleword
  | .append => built.header.listEnd
  | .separate _ => draft.locationCounter

/-- Closing an open table lays it out where its placement wants it or finds no room for it, and is
never stopped. -/
lemma closeTable_cases (hstate : draft.state = .opened table) (placement : Placement) :
    (∃ start, draft.closeTable placement =
      .ok (.error (.tableOverflow start), { draft with state := .closed })) ∨
    ∃ built, draft.tableAddress placement = .ok (some built.address) ∧
      built.LaysOut draft.mode draft.assembledBase table ∧
      draft.closeTable placement = .ok (.ok built, { draft with
        locationCounter := draft.counterAfter built placement, state := .closed }) := by
  obtain ⟨address, haddress⟩ := draft.exists_tableAddress placement
  unfold closeTable layOut
  simp only [hstate, haddress, Checked.ok_bind]
  cases hlayOut : address.bind (draft.layOutAt? table) with
  | none => exact Or.inl ⟨_, rfl⟩
  | some built =>
    obtain ⟨start, rfl, hbuilt⟩ := Option.bind_eq_some_iff.mp hlayOut
    obtain ⟨hstart, hlaysOut⟩ := layOutAt?_eq_some hbuilt
    refine Or.inr ⟨built, by rw [hstart], hlaysOut, ?_⟩
    cases placement <;> rfl

/-- A table that was closed was laid out. -/
lemma closeTable_eq_ok {closed : Draft} (hstate : draft.state = .opened table)
    (h : draft.closeTable placement = .ok (.ok built, closed)) :
    draft.tableAddress placement = .ok (some built.address) ∧
      built.LaysOut draft.mode draft.assembledBase table := by
  rcases closeTable_cases hstate placement with ⟨start, hclose⟩ | ⟨built', hstart, hlaysOut, hclose⟩
  · rw [hclose] at h
    cases h
  · rw [hclose] at h
    cases h
    exact ⟨hstart, hlaysOut⟩

end Draft

/-! ### Images -/

/-- A sum that stops at the highest address, as a number. -/
lemma Doubleword.toNat_addClamped (a : Doubleword) (n : Nat) :
    (a.addClamped n).toNat = min (a.toNat + n) (2 ^ 64 - 1) := by
  apply UInt64.toNat_ofNat_of_lt'
  simp only [UInt64.size]
  omega

/-- The end of a region is the address behind its last byte, unless that is too high. -/
lemma Region.toNat_end (region : Region) :
    region.end.toNat = min (region.base.toNat + region.data.length) (2 ^ 64 - 1) :=
  Doubleword.toNat_addClamped region.base region.size

namespace Storage

variable {storage bytes result : Storage} {length : Nat}

/-- Storage is brought to every length that storage can have. -/
lemma resize_eq_ok_iff :
    storage.resize length = .ok result ↔ length ≤ capacity ∧
      result = storage.take length ++ List.replicate (length - storage.length) 0 := by
  unfold resize
  by_cases h : length ≤ capacity
  · rw [if_pos h, Except.ok.injEq, and_iff_right h, eq_comm]
  · rw [if_neg h]
    simp [h]

/-- Bytes are put behind storage if the whole is no longer than storage can be. -/
lemma extend_eq_ok_iff :
    storage.extend bytes = .ok result ↔
      storage.length + bytes.length ≤ capacity ∧ result = storage ++ bytes := by
  unfold extend
  by_cases h : storage.length + bytes.length ≤ capacity
  · rw [if_pos h, Except.ok.injEq, and_iff_right h, eq_comm]
  · rw [if_neg h]
    simp [h]

end Storage

/-- An image is the region, a gap of zeros and the table.  A table that starts below the highest
address stands behind the whole region. -/
theorem Region.withTable_eq_ok {region : Region} {table : BuiltTable} {image : Storage}
    (h : region.withTable table = .ok (.ok image)) (htop : table.address.toNat < 2 ^ 64 - 1) :
    region.base ≤ table.address ∧ ∃ gap,
      region.data.length + gap = (table.address - region.base).toNat ∧
      image = region.data ++ List.replicate gap 0 ++ table.encode := by
  unfold withTable at h
  split at h
  · cases h
  rename_i hend
  rw [UInt64.lt_iff_toNat_lt, toNat_end] at hend
  obtain ⟨offset, hoffset, h⟩ := Checked.bind_eq_ok_iff.mp h
  obtain ⟨front, hfront, h⟩ := Checked.bind_eq_ok_iff.mp h
  obtain ⟨bytes, hbytes, h⟩ := Checked.bind_eq_ok_iff.mp h
  cases h
  obtain ⟨hbase, rfl⟩ := Doubleword.difference_eq_ok hoffset
  obtain ⟨-, rfl⟩ := Storage.resize_eq_ok_iff.mp hfront
  obtain ⟨-, rfl⟩ := Storage.extend_eq_ok_iff.mp hbytes
  have hsub := UInt64.toNat_sub_of_le _ _ hbase
  refine ⟨hbase, (table.address - region.base).toNat - region.data.length, by omega, ?_⟩
  rw [List.take_of_length_le (by omega)]

end Relocation
