import ExploitReplay.Disk.Basic
import ExploitReplay.Disk.Decoding

/-!
# What stays on a disk

An entry that is put where there is no directory leaves all ways through the disk as they are. So a
directory that has been made is still there after a file has been written, and to make it once more
changes nothing. A file that cannot be opened is left as it is. One that can be opened holds what has
been written, or only the beginning of it if there is too little room.

## Main definitions

* `Disk.Readable d p`: nothing keeps a file in a place from being read

## Main results

* `locate_put`: paths lead where they have led before
* `ensureDirectory_cases`: how a directory is made sure of
* `isDirectory_makeDirectories`: a directory that has been made is there
* `makeDirectories_of_isDirectory`: one that is there is not made again
* `writeAt_cases`: how the writing of a file ends
* `look_writeAt`: a file that has been written is there, with its content
* `look_of_writeAt_error`: what is in a file that could not be written
* `Decoding.utf8?_toUTF8`: a text without carriage returns is read as it has been written
-/

namespace ExploitReplay

namespace Disk

variable {d made left : Disk} {p q : Path} {l m r : Location} {content : ByteArray} {e : DiskError}

/-! ### Ways through a disk -/

/-- A way leads through directories only, so it does not matter what is put in another place. -/
theorem walk_put (hm : d.entryAt? m ≠ some .directory) (e : Entry) {parts : List String}
    (h : d.walk l parts = .ok r) : (d.put m e).walk l parts = .ok r := by
  induction parts generalizing l with
  | nil => exact h
  | cons part rest ih =>
    unfold walk at h ⊢
    cases hentry : d.entryAt? l with
    | none => simp [hentry] at h
    | some entry =>
      cases entry with
      | file content => simp [hentry] at h
      | directory =>
        have hne : l ≠ m := by
          intro heq
          exact hm (heq ▸ hentry)
        rw [hentry] at h
        rw [entryAt?_put_of_ne d hne, hentry]
        cases hsearch : d.refusal .search l with
        | some why => simp [hsearch] at h
        | none =>
          have hsame : (d.put m e).refusal .search l = none := hsearch
          by_cases hlong : nameLimit < part.utf8ByteSize
          · simp [hsearch, hlong] at h
          · simp only [hsearch, hsame, hlong, if_false] at h ⊢
            exact ih h

theorem locate_eq_ok_iff : d.locate p = .ok l ↔
    p.isNameable = true ∧ p.toString.utf8ByteSize < pathLimit ∧
      d.walk (if p.isAbsolute then [] else d.here) p.parts = .ok l := by
  unfold locate
  by_cases hname : p.isNameable = true
  · by_cases hlong : pathLimit ≤ p.toString.utf8ByteSize
    · have hnot : ¬p.toString.utf8ByteSize < pathLimit := Nat.not_lt.mpr hlong
      simp [hname, hlong, hnot]
    · simp [hname, hlong, Nat.lt_of_not_le hlong]
  · simp [hname]

/-- **Paths lead where they have led before.** -/
theorem locate_put (hm : d.entryAt? m ≠ some .directory) (e : Entry) (h : d.locate p = .ok l) :
    (d.put m e).locate p = .ok l := by
  rw [locate_eq_ok_iff] at h ⊢
  exact ⟨h.1, h.2.1, walk_put hm e h.2.2⟩

theorem look_of_locate (h : d.locate p = .ok l) : d.look p = .ok (d.entryAt? l) := by
  simp only [look, h]

/-! ### Directories -/

theorem isDirectory_iff :
    d.isDirectory p = true ↔ ∃ l, d.locate p = .ok l ∧ d.entryAt? l = some .directory := by
  constructor
  · intro h
    cases hl : d.locate p with
    | error cause => cases habsent : cause.isAbsence <;> simp [isDirectory, look, hl, habsent] at h
    | ok l =>
      refine ⟨l, rfl, ?_⟩
      rw [isDirectory, look_of_locate hl] at h
      split at h
      · rename_i heq
        exact Except.ok.inj heq
      · cases h
  · rintro ⟨l, hl, hentry⟩
    rw [isDirectory, look_of_locate hl, hentry]

/-- A directory stays one, whatever is put in another place. -/
theorem isDirectory_put (hm : d.entryAt? m ≠ some .directory) (e : Entry)
    (h : d.isDirectory p = true) : (d.put m e).isDirectory p = true := by
  obtain ⟨l, hl, hentry⟩ := isDirectory_iff.mp h
  refine isDirectory_iff.mpr ⟨l, locate_put hm e hl, ?_⟩
  have hne : l ≠ m := by
    rintro rfl
    exact hm hentry
  rw [entryAt?_put_of_ne d hne, hentry]

theorem not_prefix_here (h : d.entryAt? l ≠ some .directory) : ¬l <+: d.here := by
  intro hprefix
  apply h
  simp [entryAt?, hprefix]

/-- **A directory that has been made sure of** was there, or is new in a place with nothing in it. -/
theorem ensureDirectory_cases (h : d.ensureDirectory p = .ok made) :
    (d.isDirectory p = true ∧ made = d) ∨
      ∃ l, d.locate p = .ok l ∧ d.entryAt? l = none ∧ made = d.put l .directory := by
  unfold ensureDirectory at h
  cases hmake : d.makeDirectory p with
  | error cause =>
    left
    by_cases hthere : d.isDirectory p = true
    · simp only [hmake, hthere, if_true, Except.ok.injEq] at h
      exact ⟨hthere, h.symm⟩
    · simp [hmake, hthere] at h
  | ok new =>
    right
    simp only [hmake, Except.ok.injEq] at h
    subst h
    unfold makeDirectory at hmake
    cases hl : d.locate p with
    | error cause => simp [hl] at hmake
    | ok l =>
      cases hentry : d.entryAt? l with
      | some entry => simp [hl, hentry] at hmake
      | none =>
        cases hrefusal : d.refusal .make l with
        | some why => simp [hl, hentry, hrefusal] at hmake
        | none =>
          simp only [hl, hentry, hrefusal, Except.ok.injEq] at hmake
          exact ⟨l, rfl, hentry, hmake.symm⟩

theorem isDirectory_ensureDirectory (h : d.ensureDirectory p = .ok made) :
    made.isDirectory p = true := by
  rcases ensureDirectory_cases h with ⟨hthere, rfl⟩ | ⟨l, hl, hentry, rfl⟩
  · exact hthere
  · -- nothing was in the place of the directory, so that the way to it has not changed
    have hfree : d.entryAt? l ≠ some .directory := by simp [hentry]
    exact isDirectory_iff.mpr ⟨l, locate_put hfree _ hl,
      entryAt?_put_self d (not_prefix_here hfree) _⟩

theorem home_ensureDirectory (h : d.ensureDirectory p = .ok made) : made.home = d.home := by
  rcases ensureDirectory_cases h with ⟨-, rfl⟩ | ⟨l, -, -, rfl⟩
  · rfl
  · rfl

theorem ensureDirectory_of_isDirectory (h : d.isDirectory p = true) :
    d.ensureDirectory p = .ok d := by
  obtain ⟨l, hl, hentry⟩ := isDirectory_iff.mp h
  simp [ensureDirectory, makeDirectory, hl, hentry, h]

/-- Whatever is made above it, a directory is made sure of in the end. -/
theorem exists_of_makeAlong {slashes : Nat} {parts : List String}
    (h : d.makeAlong slashes parts = (made, .ok ())) : ∃ between : Disk,
      between.home = d.home ∧ between.ensureDirectory ⟨slashes, parts.reverse⟩ = .ok made := by
  induction parts generalizing made with
  | nil =>
    unfold makeAlong at h
    cases hensure : d.ensureDirectory ⟨slashes, []⟩ with
    | error cause => simp [hensure] at h
    | ok new =>
      simp only [hensure, Prod.mk.injEq, and_true] at h
      exact ⟨d, rfl, h ▸ hensure⟩
  | cons part above ih =>
    unfold makeAlong at h
    cases hensure : d.ensureDirectory ⟨slashes, (part :: above).reverse⟩ with
    | ok new =>
      simp only [hensure, Prod.mk.injEq, and_true] at h
      exact ⟨d, rfl, h ▸ hensure⟩
    | error cause =>
      by_cases hmissing : cause.cause = .notFound
      · simp only [hensure, hmissing, if_true] at h
        rcases habove : makeAlong d slashes above with ⟨between, fault | _⟩
        · simp [habove] at h
        · -- the directory is tried again below those that have been made above it
          obtain ⟨before, hbefore, hlast⟩ := ih habove
          cases hagain : between.ensureDirectory ⟨slashes, (part :: above).reverse⟩ with
          | error fault => simp only [habove, hagain, Prod.mk.injEq, reduceCtorEq, and_false] at h
          | ok new =>
            simp only [habove, hagain, Prod.mk.injEq, and_true] at h
            exact ⟨between, (home_ensureDirectory hlast).trans hbefore, h ▸ hagain⟩
      · simp only [hensure, hmissing, if_false, Prod.mk.injEq, reduceCtorEq, and_false] at h

/-- **A directory that has been made is there.** -/
theorem isDirectory_makeDirectories (h : d.makeDirectories p = (made, .ok ())) :
    made.isDirectory p = true := by
  obtain ⟨between, -, hlast⟩ := exists_of_makeAlong h
  simpa using isDirectory_ensureDirectory hlast

theorem home_makeDirectories (h : d.makeDirectories p = (made, .ok ())) : made.home = d.home := by
  obtain ⟨between, hhome, hlast⟩ := exists_of_makeAlong h
  exact (home_ensureDirectory hlast).trans hhome

/-- **A directory that is there is not made again.** -/
theorem makeDirectories_of_isDirectory (h : d.isDirectory p = true) :
    d.makeDirectories p = (d, .ok ()) := by
  obtain ⟨slashes, parts⟩ := p
  have hensure := ensureDirectory_of_isDirectory h
  unfold makeDirectories
  cases hparts : parts.reverse with
  | nil =>
    obtain rfl : parts = [] := by simpa using hparts
    unfold makeAlong
    simp only [hensure]
  | cons part above =>
    have hback : (part :: above).reverse = parts := by rw [← hparts, List.reverse_reverse]
    unfold makeAlong
    simp only [hback, hensure]

/-! ### Files -/

/-- A file is opened in the place that a path leads to, where there is no directory. -/
theorem of_openAt (h : d.openAt p = .ok l) :
    d.locate p = .ok l ∧ d.entryAt? l ≠ some .directory := by
  unfold openAt at h
  cases hl : d.locate p with
  | error cause => simp [hl] at h
  | ok m =>
    rw [hl] at h
    dsimp only at h
    split at h
    · cases h
    · rename_i hfree
      split at h
      · cases h
      · obtain rfl := Except.ok.inj h
        exact ⟨rfl, hfree⟩

/-- A file that cannot be opened is named in the error. -/
theorem path_of_openAt (h : d.openAt p = .error e) : e.path = some p := by
  unfold openAt at h
  split at h
  · rw [← Except.error.inj h]
  · split at h
    · rw [← Except.error.inj h]
    · split at h
      · rw [← Except.error.inj h]
      · cases h

theorem size_lt_of_shortage? {size : Nat} {why : Refusal}
    (h : d.shortage? l content = some (size, why)) : size < content.size := by
  simpa using (Option.filter_eq_some_iff.mp h).2

/-- There is always room for nothing. -/
theorem shortage?_empty (d : Disk) (l : Location) : d.shortage? l .empty = none := by
  cases h : d.shortage? l .empty with
  | none => rfl
  | some limit => exact absurd (size_lt_of_shortage? h) (Nat.not_lt_zero _)

/-- **How the writing of a file ends.** The file cannot be opened and the disk stays as it is; or all
is written; or only the beginning is, and the error names no path. -/
theorem writeAt_cases (d : Disk) (p : Path) (content : ByteArray) :
    (∃ e, d.openAt p = .error e ∧ d.writeAt p content = (d, .error e)) ∨
    (∃ l, d.openAt p = .ok l ∧ d.writeAt p content = (d.put l (.file content), .ok ())) ∨
    ∃ l size why, d.openAt p = .ok l ∧ size < content.size ∧
      d.writeAt p content =
        (d.put l (.file (content.extract 0 size)), .error ⟨.refused why, none⟩) := by
  unfold writeAt
  cases hopen : d.openAt p with
  | error e => exact .inl ⟨e, rfl, rfl⟩
  | ok l =>
    right
    dsimp only
    cases hroom : d.shortage? l content with
    | none => exact .inl ⟨l, rfl, rfl⟩
    | some limit => exact .inr ⟨l, limit.1, limit.2, rfl, size_lt_of_shortage? hroom, rfl⟩

theorem writeAt_eq_ok (h : d.writeAt p content = (left, .ok ())) :
    ∃ l, d.openAt p = .ok l ∧ left = d.put l (.file content) := by
  rcases writeAt_cases d p content with ⟨e, -, hend⟩ | ⟨l, hopen, hend⟩ | ⟨_, _, _, _, -, hend⟩
  · cases (Prod.mk.inj (hend.symm.trans h)).2
  · exact ⟨l, hopen, (Prod.mk.inj (hend.symm.trans h)).1.symm⟩
  · cases (Prod.mk.inj (hend.symm.trans h)).2

/-- A file that can be opened can be emptied. -/
theorem writeAt_empty (h : d.openAt p = .ok l) :
    d.writeAt p .empty = (d.put l (.file .empty), .ok ()) := by
  unfold writeAt
  rw [h]
  dsimp only
  rw [shortage?_empty]

/-- An entry that is put where a file can be opened is there. -/
theorem look_put_of_openAt (h : d.openAt p = .ok l) (entry : Entry) :
    (d.put l entry).look p = .ok (some entry) := by
  obtain ⟨hl, hfree⟩ := of_openAt h
  rw [look_of_locate (locate_put hfree _ hl), entryAt?_put_self d (not_prefix_here hfree)]

/-- **A file that has been written is there**, with its content. -/
theorem look_writeAt (h : d.writeAt p content = (left, .ok ())) :
    left.look p = .ok (some (.file content)) := by
  obtain ⟨l, hopen, rfl⟩ := writeAt_eq_ok h
  exact look_put_of_openAt hopen _

/-- Nothing keeps a file in the place that a path leads to from being read. -/
def Readable (d : Disk) (p : Path) : Prop :=
  ∀ l, d.locate p = .ok l → d.refusal .read l = none

/-- A file that has been written is read again, if nothing keeps it from being read. -/
theorem contentAt_writeAt (h : d.writeAt p content = (left, .ok ())) (hread : d.Readable p) :
    left.contentAt p = .ok content := by
  obtain ⟨l, hopen, rfl⟩ := writeAt_eq_ok h
  obtain ⟨hl, hfree⟩ := of_openAt hopen
  have hrefusal : (d.put l (.file content)).refusal .read l = none := hread l hl
  unfold contentAt
  simp only [locate_put hfree _ hl, entryAt?_put_self d (not_prefix_here hfree), hrefusal]

/-- **What is in a file that could not be written**: what has been there before if it could not be
opened, and otherwise only the beginning of the content. -/
theorem look_of_writeAt_error (h : d.writeAt p content = (left, .error e)) :
    left = d ∧ e.path = some p ∨
      e.path = none ∧ ∃ size < content.size,
        left.look p = .ok (some (.file (content.extract 0 size))) := by
  rcases writeAt_cases d p content with
    ⟨e', hopen, hend⟩ | ⟨_, -, hend⟩ | ⟨l, size, why, hopen, hsize, hend⟩
  · obtain ⟨rfl, he⟩ := Prod.mk.inj (hend.symm.trans h)
    obtain rfl := Except.error.inj he
    exact .inl ⟨rfl, path_of_openAt hopen⟩
  · cases (Prod.mk.inj (hend.symm.trans h)).2
  · obtain ⟨rfl, he⟩ := Prod.mk.inj (hend.symm.trans h)
    obtain rfl := Except.error.inj he
    exact .inr ⟨rfl, size, hsize, look_put_of_openAt hopen _⟩

/-- A file is found where it is read. -/
theorem look_of_contentAt (h : d.contentAt p = .ok content) :
    d.look p = .ok (some (.file content)) := by
  unfold contentAt at h
  cases hl : d.locate p with
  | error cause => simp [hl] at h
  | ok l =>
    rw [look_of_locate hl]
    rw [hl] at h
    dsimp only at h
    split at h
    · cases h
    · cases h
    · cases h
    · rename_i hentry _
      rw [hentry, Except.ok.inj h]

/-- A file that can be opened is written, or holds the beginning of its content when the writing
fails. -/
theorem writeAt_of_openAt (h : d.openAt p = .ok l) (content : ByteArray) :
    (∃ left, d.writeAt p content = (left, .ok ())) ∨
      ∃ left why, d.writeAt p content = (left, .error ⟨.refused why, none⟩) ∧
        ∃ size < content.size, left.look p = .ok (some (.file (content.extract 0 size))) := by
  rcases writeAt_cases d p content with
    ⟨_, hclosed, -⟩ | ⟨_, -, hend⟩ | ⟨m, size, why, hopen, hsize, hend⟩
  · cases h.symm.trans hclosed
  · exact .inl ⟨_, hend⟩
  · exact .inr ⟨_, why, hend, size, hsize, look_put_of_openAt hopen _⟩

theorem isDirectory_writeAt (h : d.writeAt p content = (left, .ok ()))
    (hq : d.isDirectory q = true) : left.isDirectory q = true := by
  obtain ⟨l, hopen, rfl⟩ := writeAt_eq_ok h
  exact isDirectory_put (of_openAt hopen).2 _ hq

theorem home_writeAt (h : d.writeAt p content = (left, .ok ())) : left.home = d.home := by
  obtain ⟨l, -, rfl⟩ := writeAt_eq_ok h
  rfl

end Disk

/-! ### Texts of files -/

namespace Decoding

theorem unixLines_eq_self {cs : List Char} (h : '\r' ∉ cs) : unixLines cs = cs := by
  fun_induction unixLines cs with
  | case1 => rfl
  | case2 cs ih => simp at h
  | case3 c cs hpair ih =>
    obtain ⟨hc, hcs⟩ : '\r' ≠ c ∧ '\r' ∉ cs := by simpa using h
    rw [if_neg hc.symm, ih hcs]

theorem exactUtf8?_toUTF8 (s : String) : exactUtf8? s.toUTF8 = some s := by
  unfold exactUtf8? String.fromUTF8?
  rw [String.toUTF8_eq_toByteArray, dif_pos s.isValidUTF8]
  rfl

/-- **A text without carriage returns is read as it has been written.** -/
theorem utf8?_toUTF8 {s : String} (h : '\r' ∉ s.toList) : utf8? s.toUTF8 = some s := by
  rw [utf8?, exactUtf8?_toUTF8, Option.map_some, withUnixLines, unixLines_eq_self h,
    String.ofList_toList]

end Decoding

end ExploitReplay
