import NodeBootstrap.Os.FileTree
import NodeBootstrap.Proofs.Results

/-! # Reading what was written

A path leads through directories alone, and nothing is written in the place of one. So it leads to
the same place after it was written as before, and what is read there is what was written. -/

namespace NodeBootstrap.FileTree

open Os

variable {t : FileTree} {p : FilePath} {place q start : List String} {e : FileEntry}
  {found : Option FileEntry}

/-! ## Entries -/

theorem lookup_cons (q place : List String) (e : FileEntry)
    (entries : List (List String × FileEntry)) :
    ((place, e) :: entries).lookup q = if q = place then some e else entries.lookup q := by
  rw [List.lookup_cons]
  cases h : q == place
  · rw [if_neg (beq_eq_false_iff_ne.mp h)]
  · rw [if_pos (beq_iff_eq.mp h)]

theorem lookup_replaced (place q : List String) (e : FileEntry)
    (entries : List (List String × FileEntry)) :
    (set.replaced place e entries).lookup q = if q = place then some e else entries.lookup q := by
  induction entries with
  | nil => rw [set.replaced, lookup_cons]
  | cons entry entries ih =>
      obtain ⟨here, old⟩ := entry
      rw [set.replaced]
      by_cases hhere : here = place
      · rw [if_pos hhere, lookup_cons, lookup_cons, hhere]
        split <;> rfl
      · rw [if_neg hhere, lookup_cons, lookup_cons, ih]
        by_cases h : q = here
        · rw [if_pos h, if_pos h, if_neg (h ▸ hhere)]
        · rw [if_neg h, if_neg h]

theorem entry?_eq (t : FileTree) (place : List String) :
    t.entry? place =
      if place.isPrefixOf t.cwdParts then some .directory else t.entries.lookup place := rfl

theorem entry?_set_self (free : t.entry? place ≠ some .directory) :
    entry? (t.set place e) place = some e := by
  have hcwd : ¬place.isPrefixOf t.cwdParts := by
    intro h
    rw [entry?_eq, if_pos h] at free
    exact free rfl
  rw [entry?_eq, if_neg (show ¬place.isPrefixOf (t.set place e).cwdParts from hcwd), set,
    lookup_replaced, if_pos rfl]

theorem entry?_set_of_ne (h : q ≠ place) : entry? (t.set place e) q = t.entry? q := by
  rw [entry?_eq, entry?_eq, set, lookup_replaced, if_neg h]
  rfl

/-! ## Following a path -/

theorem enter_cons_eq_ok_iff {name : String} {names : List String} :
    t.enter start (name :: names) = .ok place ↔
      ∃ next, child start name = .ok next ∧ t.entry? next = some .directory ∧
        t.enter next names = .ok place := by
  rw [enter, bind_eq_ok_iff]
  refine exists_congr fun next => and_congr_right fun _ => ?_
  split <;> simp [*]

/-- Only directories are entered, so that an entry in another place makes no difference. -/
theorem enter_set (free : t.entry? q ≠ some .directory) {names : List String}
    (h : t.enter start names = .ok place) : (t.set q e).enter start names = .ok place := by
  induction names generalizing start with
  | nil => exact h
  | cons name names ih =>
      obtain ⟨next, hchild, hentry, hrest⟩ := enter_cons_eq_ok_iff.mp h
      have hnext : next ≠ q := fun heq => free (heq ▸ hentry)
      exact enter_cons_eq_ok_iff.mpr
        ⟨next, hchild, (entry?_set_of_ne hnext).trans hentry, ih hrest⟩

/-- The path leads to the place, whatever stands there. -/
structure Leads (t : FileTree) (p : FilePath) (place : List String) : Prop where
  readable : ¬p.text.contains '\x00' ∧ p.text ≠ "" ∧ p.text.utf8ByteSize < pathLimit
  followed : ∃ last above, p.parts.getLast? = some last ∧
    t.enter (if p.isAbsolute then [] else t.cwdParts) p.parts.dropLast = .ok above ∧
    child above last = .ok place

theorem Leads.set (h : t.Leads p place) (free : t.entry? q ≠ some .directory) :
    (t.set q e).Leads p place where
  readable := h.readable
  followed := by
    obtain ⟨last, above, hlast, habove, hplace⟩ := h.followed
    exact ⟨last, above, hlast, enter_set free habove, hplace⟩

theorem Leads.locate (h : t.Leads p place) (slash : p.endsInSlash = false) :
    t.locate p = .ok (place, t.entry? place) := by
  obtain ⟨hnul, hempty, hsize⟩ := h.readable
  obtain ⟨last, above, hlast, habove, hplace⟩ := h.followed
  rw [FileTree.locate, if_neg hnul, if_neg hempty, if_neg (Nat.not_le_of_lt hsize)]
  simp only [hlast, habove, hplace, ok_bind]
  split
  · rename_i hentry
    rw [slash, hentry]
    rfl
  · rfl

theorem leads_of_locate (h : t.locate p = .ok (place, found)) (free : found ≠ some .directory) :
    t.Leads p place ∧ t.entry? place = found := by
  rw [FileTree.locate] at h
  split at h
  · cases h
  rename_i hnul
  split at h
  · cases h
  rename_i hempty
  split at h
  · cases h
  rename_i hsize
  dsimp only at h
  split at h
  · obtain ⟨-, rfl⟩ := Prod.mk.inj (Except.ok.inj h)
    exact absurd rfl free
  rename_i last hlast
  obtain ⟨above, habove, h⟩ := bind_eq_ok_iff.mp h
  obtain ⟨there, hthere, h⟩ := bind_eq_ok_iff.mp h
  have hplace : there = place ∧ t.entry? there = found := by
    split at h
    · rename_i hentry
      split at h
      · cases h
      · exact ⟨(Prod.mk.inj (Except.ok.inj h)).1, hentry.trans (Prod.mk.inj (Except.ok.inj h)).2⟩
    · exact Prod.mk.inj (Except.ok.inj h)
  obtain ⟨rfl, hfound⟩ := hplace
  exact ⟨⟨⟨hnul, hempty, Nat.lt_of_not_le hsize⟩, last, above, hlast, habove, hthere⟩, hfound⟩

/-! ## Reading and writing -/

theorem locate_of_write {written : FileTree} {content : List UInt8}
    (h : t.write p content = .ok written) :
    ∃ place found, t.locate p = .ok (place, found) ∧ found ≠ some .directory ∧
      p.endsInSlash = false ∧ written = t.set place (.file content) := by
  rw [write] at h
  obtain ⟨⟨place, found⟩, hlocate, h⟩ := bind_eq_ok_iff.mp h
  refine ⟨place, found, hlocate, ?_⟩
  split at h
  · cases h
  · rename_i hfound heq
    obtain ⟨rfl, rfl⟩ := Prod.mk.inj heq
    split at h
    · cases h
    · rename_i slash
      exact ⟨hfound, Bool.eq_false_iff.mpr slash, (Except.ok.inj h).symm⟩

/-- What was written is read again. -/
theorem read_of_write {written : FileTree} {content : List UInt8}
    (h : t.write p content = .ok written) : written.read p = .ok content := by
  obtain ⟨place, found, hlocate, hfound, slash, rfl⟩ := locate_of_write h
  obtain ⟨leads, hentry⟩ := leads_of_locate hlocate hfound
  have free : t.entry? place ≠ some .directory := hentry ▸ hfound
  rw [read, (leads.set free).locate slash, entry?_set_self free]
  rfl

end NodeBootstrap.FileTree
