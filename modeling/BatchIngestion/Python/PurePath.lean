import BatchIngestion.Python.Text

/-!
# Pure POSIX paths

`pathlib.PurePosixPath`: a root and a list of names. Joining drops empty names
and single dots, and an absolute part discards what stands before it.
-/

namespace BatchIngestion.Python

/-- A `PurePosixPath`: its root (empty, `/` or `//`) and its names. -/
@[ext]
structure PurePath where
  /-- `root`. -/
  root : Text
  /-- `parts` without the root. -/
  names : List Text
  deriving DecidableEq

namespace PurePath

/-- `splitroot`: exactly two leading slashes are a root of their own. -/
def splitRoot (part : Text) : Text × Text :=
  let rest := part.dropWhile (· == '/')
  if part.length = rest.length then ([], rest)
  else if part.length = rest.length + 2 then ("//", rest)
  else ("/", rest)

/-- The names of a relative part. -/
def namesOf (rel : Text) : List Text :=
  (rel.splitOn '/').filter fun name => name ≠ [] ∧ name ≠ ['.']

/-- Append one part; an absolute part starts over. -/
def joinPart (p : PurePath) (part : Text) : PurePath :=
  let (root, rel) := splitRoot part
  if root = [] then ⟨p.root, p.names ++ namesOf rel⟩ else ⟨root, namesOf rel⟩

/-- `PurePosixPath(*parts)`. -/
def ofParts (parts : List Text) : PurePath := parts.foldl joinPart ⟨[], []⟩

/-- `self / other`. -/
def join (p other : PurePath) : PurePath :=
  if other.root = [] then ⟨p.root, p.names ++ other.names⟩ else other

/-- `str(path)`. -/
def toText (p : PurePath) : Text :=
  if p.root = [] ∧ p.names = [] then ['.'] else p.root ++ ['/'].intercalate p.names

/-- `name`: the last name, if there is one. -/
def name (p : PurePath) : Text := p.names.getLastD []

/-- `stem`: the last name up to its last dot, unless the name starts or ends with that dot. -/
def stem (name : Text) : Text :=
  let upToDot := name.rdropWhile (· ≠ '.')
  if 1 < upToDot.length ∧ upToDot.length < name.length then upToDot.dropLast else name

end PurePath

/-- `s.split(sep, 1)` when `sep` occurs in `s`: the parts before and after its first
occurrence. -/
def splitOnce (sep : Text) : Text → Option (Text × Text)
  | [] => if sep = [] then some ([], []) else none
  | c :: t =>
    if sep.isPrefixOf (c :: t) then some ([], (c :: t).drop sep.length)
    else (splitOnce sep t).map fun (before, after) => (c :: before, after)

/-- The first occurrence of a separator is the one after a text that does not have its first
character. -/
theorem splitOnce_append {sep before after : Text} {c : Char} (hc : sep.head? = some c)
    (hbefore : c ∉ before) : splitOnce sep (before ++ (sep ++ after)) = some (before, after) := by
  obtain ⟨rest, rfl⟩ : ∃ rest, sep = c :: rest := by
    cases sep with
    | nil => simp at hc
    | cons d rest => exact ⟨rest, by simpa using hc⟩
  induction before with
  | nil => simp [splitOnce]
  | cons d before ih =>
    simp only [List.mem_cons, not_or] at hbefore
    obtain ⟨hd, hbefore⟩ := hbefore
    rw [List.cons_append, splitOnce, if_neg (by simp [hd]), ih hbefore]
    rfl

/-! ### The names of a text -/

namespace PurePath

/-- The parts of a split text do not have the separator. -/
theorem notMem_of_mem_splitOn {sep : Char} {t part : Text} (h : part ∈ t.splitOn sep) :
    sep ∉ part := by
  induction t generalizing part with
  | nil =>
    obtain rfl : part = [] := by simpa using h
    simp
  | cons c t ih =>
    rw [List.splitOn_cons_eq_if_modifyHead] at h
    split at h
    · rcases List.mem_cons.mp h with rfl | h
      · simp
      · exact ih h
    · rename_i hc
      obtain ⟨head, tail, hsplit⟩ := List.exists_cons_of_ne_nil (List.splitOn_ne_nil sep t)
      rw [hsplit, List.modifyHead_cons] at h
      rcases List.mem_cons.mp h with rfl | h
      · have hhead := ih (hsplit ▸ List.mem_cons_self)
        have hne : sep ≠ c := fun heq => hc (beq_iff_eq.mpr heq.symm)
        simp [hne, hhead]
      · exact ih (hsplit ▸ List.mem_cons_of_mem _ h)

/-- A name of a path: nonempty, no single dot, and without a slash. -/
def IsName (name : Text) : Prop := name ≠ [] ∧ name ≠ ['.'] ∧ '/' ∉ name

instance (name : Text) : Decidable (IsName name) :=
  inferInstanceAs (Decidable (name ≠ [] ∧ name ≠ ['.'] ∧ '/' ∉ name))

/-- What a text is split into are names. -/
theorem isName_of_mem_namesOf {t name : Text} (h : name ∈ namesOf t) : IsName name := by
  obtain ⟨hmem, hname⟩ := List.mem_filter.mp h
  obtain ⟨hne, hdot⟩ := of_decide_eq_true hname
  exact ⟨hne, hdot, notMem_of_mem_splitOn hmem⟩

/-- The empty text has no names. -/
@[simp] theorem namesOf_nil : namesOf [] = [] := rfl

/-- A slash separates the names before it from those after it. -/
theorem namesOf_append_slash (a b : Text) : namesOf (a ++ '/' :: b) = namesOf a ++ namesOf b := by
  rw [namesOf, List.splitOn_append_cons_self, List.filter_append]
  rfl

/-- A leading slash separates nothing. -/
@[simp] theorem namesOf_cons_slash (t : Text) : namesOf ('/' :: t) = namesOf t :=
  namesOf_append_slash [] t

/-- Leading slashes separate nothing. -/
@[simp] theorem namesOf_dropWhile_slash (t : Text) :
    namesOf (t.dropWhile (· == '/')) = namesOf t := by
  induction t with
  | nil => rfl
  | cons c t ih =>
    by_cases hc : c = '/'
    · subst hc
      rw [List.dropWhile_cons_of_pos (by decide), ih, namesOf_cons_slash]
    · rw [List.dropWhile_cons_of_neg (by simpa using hc)]

/-- A name has itself as its only name. -/
theorem namesOf_of_isName {name : Text} (h : IsName name) : namesOf name = [name] := by
  rw [namesOf, List.splitOn_eq_singleton h.2.2]
  simp [h.1, h.2.1]

/-- Names that are joined by slashes are taken apart again. -/
theorem namesOf_intercalate {names : List Text} (h : ∀ name ∈ names, IsName name) :
    namesOf (['/'].intercalate names) = names := by
  cases hnames : names with
  | nil => rfl
  | cons name rest =>
    rw [← hnames, namesOf, List.splitOn_intercalate '/' (fun name hname => (h name hname).2.2)
      (by simp [hnames])]
    exact List.filter_eq_self.mpr fun name hname =>
      decide_eq_true ⟨(h name hname).1, (h name hname).2.1⟩

/-- A character other than a slash or a dot is in a text exactly when it is in a name. -/
theorem exists_mem_namesOf_iff {c : Char} (hslash : c ≠ '/') (hdot : c ≠ '.') (t : Text) :
    (∃ name ∈ namesOf t, c ∈ name) ↔ c ∈ t := by
  have hparts : (∃ part ∈ t.splitOn '/', c ∈ part) ↔ c ∈ t := by
    have hjoin : ['/'].intercalate (t.splitOn '/') = t := List.intercalate_splitOn '/'
    conv_rhs => rw [← hjoin]
    induction t.splitOn '/' with
    | nil => simp
    | cons part parts ih =>
      cases parts with
      | nil => simp
      | cons next parts =>
        rw [List.intercalate_cons_cons, List.exists_mem_cons_iff, ih]
        simp [hslash]
  rw [← hparts]
  constructor
  · rintro ⟨name, hname, hc⟩
    exact ⟨name, (List.mem_filter.mp hname).1, hc⟩
  · rintro ⟨part, hpart, hc⟩
    refine ⟨part, List.mem_filter.mpr ⟨hpart, decide_eq_true ⟨?_, ?_⟩⟩, hc⟩
    · exact List.ne_nil_of_mem hc
    · rintro rfl
      exact hdot (List.mem_singleton.mp hc)

/-! ### Joining -/

/-- A text is absolute when it starts with a slash. -/
def IsAbsolute (t : Text) : Prop := t.head? = some '/'

instance (t : Text) : Decidable (IsAbsolute t) := inferInstanceAs (Decidable (_ = _))

/-- A text that does not start with a slash has no leading slashes. -/
theorem dropWhile_slash_of_relative {t : Text} (h : ¬ IsAbsolute t) :
    t.dropWhile (· == '/') = t := by
  cases t with
  | nil => rfl
  | cons c t =>
    have hc : c ≠ '/' := fun heq => h (by rw [IsAbsolute, heq]; rfl)
    exact List.dropWhile_cons_of_neg (by simpa using hc)

/-- A text that does not start with a slash has no root. -/
theorem splitRoot_of_relative {t : Text} (h : ¬ IsAbsolute t) : splitRoot t = ([], t) := by
  simp only [splitRoot, dropWhile_slash_of_relative h, if_true]

/-- An absolute text has a root, which takes no names with it. -/
theorem splitRoot_of_absolute {t : Text} (h : IsAbsolute t) :
    (splitRoot t).1 ≠ [] ∧ namesOf (splitRoot t).2 = namesOf t := by
  obtain ⟨rest, rfl⟩ : ∃ rest, t = '/' :: rest := by
    cases t with
    | nil => simp [IsAbsolute] at h
    | cons c rest => exact ⟨rest, by simpa [IsAbsolute] using h⟩
  have hshorter : ¬ ('/' :: rest).length = (('/' :: rest).dropWhile (· == '/')).length := by
    rw [List.dropWhile_cons_of_pos (by decide)]
    have hle := List.length_dropWhile_le (· == '/') rest
    simp only [List.length_cons]
    omega
  simp only [splitRoot, if_neg hshorter]
  split <;> exact ⟨by simp, namesOf_dropWhile_slash _⟩

/-- A relative part is appended. -/
theorem joinPart_of_relative (p : PurePath) {t : Text} (h : ¬ IsAbsolute t) :
    p.joinPart t = ⟨p.root, p.names ++ namesOf t⟩ := by
  simp only [joinPart, splitRoot_of_relative h, if_true]

/-- An absolute part starts over. -/
theorem joinPart_of_absolute (p : PurePath) {t : Text} (h : IsAbsolute t) :
    (p.joinPart t).root ≠ [] ∧ (p.joinPart t).names = namesOf t := by
  obtain ⟨hroot, hnames⟩ := splitRoot_of_absolute h
  simp only [joinPart, if_neg hroot]
  exact ⟨hroot, hnames⟩

/-- Relative parts are appended one after the other. -/
theorem foldl_joinPart_of_relative {parts : List Text} (h : ∀ part ∈ parts, ¬ IsAbsolute part)
    (p : PurePath) : parts.foldl joinPart p = ⟨p.root, p.names ++ parts.flatMap namesOf⟩ := by
  induction parts generalizing p with
  | nil => simp
  | cons part parts ih =>
    obtain ⟨hpart, hparts⟩ := List.forall_mem_cons.mp h
    rw [List.foldl_cons, joinPart_of_relative p hpart, ih hparts, List.flatMap_cons,
      List.append_assoc]

/-- A path with a root keeps one, and has only names of the parts. -/
theorem foldl_joinPart_root (parts : List Text) (p : PurePath)
    (h : p.root ≠ [] ∨ ∃ part ∈ parts, IsAbsolute part) :
    (parts.foldl joinPart p).root ≠ [] := by
  induction parts generalizing p with
  | nil => simpa using h
  | cons part parts ih =>
    refine ih (p.joinPart part) ?_
    by_cases hpart : IsAbsolute part
    · exact .inl (joinPart_of_absolute p hpart).1
    · rw [joinPart_of_relative p hpart]
      refine h.imp_right fun ⟨other, hmem, habsolute⟩ => ?_
      rcases List.mem_cons.mp hmem with rfl | hmem
      · exact absurd habsolute hpart
      · exact ⟨other, hmem, habsolute⟩

/-- A path has at most the names of its parts. -/
theorem length_names_foldl_joinPart_le (parts : List Text) (p : PurePath) :
    (parts.foldl joinPart p).names.length ≤ p.names.length + (parts.flatMap namesOf).length := by
  induction parts generalizing p with
  | nil => simp
  | cons part parts ih =>
    refine (ih (p.joinPart part)).trans ?_
    have hpart : (p.joinPart part).names.length ≤ p.names.length + (namesOf part).length := by
      by_cases hpart : IsAbsolute part
      · rw [(joinPart_of_absolute p hpart).2]
        omega
      · rw [joinPart_of_relative p hpart, List.length_append]
    rw [List.flatMap_cons, List.length_append]
    omega

/-! ### The text of a path -/

/-- A path as the constructor builds it: one of the three roots, and names. -/
structure WellFormed (p : PurePath) : Prop where
  /-- The root is empty, one slash or two slashes. -/
  root : p.root = [] ∨ p.root = ['/'] ∨ p.root = ['/', '/']
  /-- The names are names. -/
  names : ∀ name ∈ p.names, IsName name

/-- Joining a part keeps a path well formed. -/
theorem WellFormed.joinPart {p : PurePath} (h : p.WellFormed) (part : Text) :
    (p.joinPart part).WellFormed := by
  have hnew : ∀ name ∈ namesOf (splitRoot part).2, IsName name :=
    fun name hname => isName_of_mem_namesOf hname
  unfold PurePath.joinPart
  dsimp only
  split
  · refine ⟨h.root, fun name hname => ?_⟩
    rcases List.mem_append.mp hname with hname | hname
    · exact h.names name hname
    · exact hnew name hname
  · refine ⟨?_, hnew⟩
    unfold splitRoot
    dsimp only
    split
    · exact .inl rfl
    · split
      · exact .inr (.inr rfl)
      · exact .inr (.inl rfl)

/-- The constructor builds well-formed paths. -/
theorem wellFormed_ofParts (parts : List Text) : (ofParts parts).WellFormed := by
  have hfold : ∀ p : PurePath, p.WellFormed → (parts.foldl PurePath.joinPart p).WellFormed := by
    induction parts with
    | nil => exact fun p hp => hp
    | cons part parts ih => exact fun p hp => ih _ (hp.joinPart part)
  exact hfold ⟨[], []⟩ ⟨.inl rfl, by simp⟩

/-- Joining two paths keeps them well formed. -/
theorem WellFormed.join {p q : PurePath} (hp : p.WellFormed) (hq : q.WellFormed) :
    (p.join q).WellFormed := by
  unfold PurePath.join
  split
  · refine ⟨hp.root, fun name hname => ?_⟩
    rcases List.mem_append.mp hname with hname | hname
    · exact hp.names name hname
    · exact hq.names name hname
  · exact hq

/-- The root of a path is read back. -/
theorem splitRoot_append {root t : Text} (hroot : root = [] ∨ root = ['/'] ∨ root = ['/', '/'])
    (ht : ¬ IsAbsolute t) : splitRoot (root ++ t) = (root, t) := by
  have hdrop := dropWhile_slash_of_relative ht
  rcases hroot with rfl | rfl | rfl
  · exact splitRoot_of_relative ht
  · simp [splitRoot, hdrop]
  · have hlonger : t.length + 1 + 1 ≠ t.length := by omega
    simp [splitRoot, hdrop, hlonger]

/-- Names that are joined by slashes are relative. -/
theorem intercalate_relative {names : List Text} (h : ∀ name ∈ names, IsName name) :
    ¬ IsAbsolute (['/'].intercalate names) := by
  cases names with
  | nil => simp [IsAbsolute]
  | cons name rest =>
    obtain ⟨hne, -, hslash⟩ := h name List.mem_cons_self
    obtain ⟨c, name, rfl⟩ := List.exists_cons_of_ne_nil hne
    have hc : c ≠ '/' := fun heq => hslash (heq ▸ List.mem_cons_self)
    cases rest <;> simpa [IsAbsolute] using hc

/-- **A path is read back from its text.** -/
theorem WellFormed.ofParts_toText {p : PurePath} (h : p.WellFormed) : ofParts [p.toText] = p := by
  obtain ⟨root, names⟩ := p
  by_cases hempty : root = [] ∧ names = []
  · obtain ⟨rfl, rfl⟩ := hempty
    rfl
  · have htext : toText ⟨root, names⟩ = root ++ ['/'].intercalate names := if_neg hempty
    rw [htext, ofParts, List.foldl_cons, List.foldl_nil, PurePath.joinPart,
      splitRoot_append h.root (intercalate_relative h.names)]
    dsimp only
    rw [namesOf_intercalate h.names]
    split
    · rename_i hroot
      rw [hroot, List.nil_append]
    · rfl

/-- Paths with one text are equal. -/
theorem WellFormed.toText_inj {p q : PurePath} (hp : p.WellFormed) (hq : q.WellFormed) :
    p.toText = q.toText ↔ p = q := by
  refine ⟨fun heq => ?_, fun heq => heq ▸ rfl⟩
  rw [← hp.ofParts_toText, heq, hq.ofParts_toText]

/-- The names of a path are the names of its text. -/
theorem WellFormed.namesOf_toText {p : PurePath} (h : p.WellFormed) :
    namesOf p.toText = p.names := by
  have hread := h.ofParts_toText
  have hnames : (ofParts [p.toText]).names = namesOf p.toText := by
    rw [ofParts, List.foldl_cons, List.foldl_nil]
    by_cases habsolute : IsAbsolute p.toText
    · exact (joinPart_of_absolute _ habsolute).2
    · rw [joinPart_of_relative _ habsolute, List.nil_append]
  rw [← hnames, hread]

/-- The stem of a name without its suffix. -/
theorem stem_append {base suffix : Text} (hbase : base ≠ []) (hsuffix : suffix ≠ [])
    (hdot : '.' ∉ suffix) : stem (base ++ '.' :: suffix) = base := by
  have hdrop : (base ++ '.' :: suffix).rdropWhile (· ≠ '.') = base ++ ['.'] := by
    rw [List.rdropWhile, List.reverse_append, List.reverse_cons, List.append_assoc,
      List.dropWhile_append_of_pos fun c hc => ?_]
    · simp
    · simpa using fun heq : c = '.' => hdot (heq ▸ List.mem_reverse.mp hc)
  have hlength : 0 < base.length := List.length_pos_iff.mpr hbase
  have hlength' : 0 < suffix.length := List.length_pos_iff.mpr hsuffix
  simp only [stem, hdrop, List.length_append, List.length_cons, List.length_nil]
  rw [if_pos (by omega), List.dropLast_concat]

end PurePath

end BatchIngestion.Python
