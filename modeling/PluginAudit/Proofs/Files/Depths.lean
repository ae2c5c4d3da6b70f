import PluginAudit.Proofs.Files.Prefixes

/-!
# Depths of found paths

A pattern without `**` mostly fits a fixed number of components, so what patterns of this kind find
lies at one depth. The others are loose: patterns behind one of them may fit in several ways.
-/

namespace PluginAudit.Files.Search

/-- A pattern that fits varying numbers of components: `**`, and one with wildcards that fits the
special name `.` too. -/
def isLoose (pattern : List Glob) : Bool :=
  pattern == [.directories] || Glob.literal? pattern == none && (fittingDots pattern).contains ['.']

/-- The number of loose patterns, where `**` counts once if it is repeated. -/
def looseCount : List (List Glob) → Nat
  | [] => 0
  | pattern :: rest =>
    (if isLoose pattern && !(pattern == [.directories] && rest.head? == some [.directories]) then 1
      else 0) + looseCount rest

/-- The number of components that a pattern fits if it is not loose. -/
def width (pattern : List Glob) : Nat :=
  match Glob.literal? pattern with
  | some name => (Path.laterComponents [name]).length
  | none => 1

def totalWidth : List (List Glob) → Nat
  | [] => 0
  | pattern :: rest => width pattern + totalWidth rest

def depth (p : Path) : Nat := p.laterComponents.length

variable {fs : FileSystem} {mustBeDir : Bool} {n : Nat} {dir s : Spot} {q : Path}
  {pattern : List Glob} {rest patterns : List (List Glob)} {name : Name}

/-! ## Loose patterns -/

theorem isLoose_of_here (hliteral : Glob.literal? pattern = none)
    (h : ['.'] ∈ fittingDots pattern) : isLoose pattern = true := by
  simp [isLoose, hliteral, h]

theorem ne_directories_of_isLoose (h : isLoose pattern = false) : pattern ≠ [.directories] := by
  rintro rfl
  cases h

theorem looseCount_le : looseCount rest ≤ looseCount (pattern :: rest) := by
  rw [looseCount]
  exact Nat.le_add_left _ _

theorem looseCount_collapse (patterns : List (List Glob)) :
    looseCount (collapse patterns) = looseCount patterns := by
  fun_induction collapse patterns with
  | case1 rest ih =>
    rw [ih, looseCount, looseCount, looseCount]
    simp
  | case2 => rfl

theorem head?_of_collapse (h : collapse patterns = [.directories] :: rest) :
    rest.head? ≠ some [.directories] := by
  fun_induction collapse patterns with
  | case1 rest ih => exact ih h
  | case2 patterns hcollapse =>
    intro hhead
    obtain ⟨others, rfl⟩ := List.head?_eq_some_iff.1 hhead
    exact hcollapse others h

theorem collapse_directories (h : ∀ g ∈ rest, isLoose g = false) :
    collapse ([.directories] :: rest) = [.directories] :: rest := by
  cases rest with
  | nil => rfl
  | cons pattern rest =>
    have hne := ne_directories_of_isLoose (h pattern List.mem_cons_self)
    unfold collapse
    split
    · next heq => exact absurd (List.cons.inj (List.cons.inj heq).2).1 hne
    · rfl

theorem isLoose_of_looseCount (h : looseCount rest = 0) : ∀ g ∈ rest, isLoose g = false := by
  induction rest with
  | nil => exact nofun
  | cons pattern rest ih =>
    rw [looseCount, Nat.add_eq_zero_iff] at h
    obtain ⟨hpattern, hrest⟩ := h
    have htight := ih hrest
    refine List.forall_mem_cons.2 ⟨Bool.eq_false_iff.2 fun hloose => ?_, htight⟩
    have hrepeated : pattern = [.directories] ∧ rest.head? = some [.directories] := by
      simpa [hloose] using hpattern
    cases htight _ (List.mem_of_head? hrepeated.2)

/-- If at most one pattern is loose, those behind it are not. -/
theorem tight_of_isLoose (hloose : isLoose pattern = true)
    (hhead : pattern = [.directories] → rest.head? ≠ some [.directories])
    (h : looseCount (pattern :: rest) ≤ 1) : ∀ g ∈ rest, isLoose g = false := by
  have honce : pattern ≠ [.directories] ∨ rest.head? ≠ some [.directories] :=
    Decidable.not_or_of_imp hhead
  refine isLoose_of_looseCount ?_
  rw [looseCount, if_pos (by simpa [hloose] using honce)] at h
  omega

theorem tight_of_here (hliteral : Glob.literal? pattern = none)
    (hhere : ['.'] ∈ fittingDots pattern) (h : looseCount (pattern :: rest) ≤ 1) :
    ∀ g ∈ rest, isLoose g = false := by
  refine tight_of_isLoose (isLoose_of_here hliteral hhere) ?_ h
  rintro rfl
  cases hhere

theorem tight_of_collapse (h : looseCount patterns ≤ 1)
    (hcollapse : collapse patterns = [.directories] :: rest) : ∀ g ∈ rest, isLoose g = false := by
  rw [← looseCount_collapse, hcollapse] at h
  exact tight_of_isLoose rfl (fun _ => head?_of_collapse hcollapse) h

/-! ## Widths -/

theorem fits_literal (h : Glob.literal? pattern = some name) {text : Name}
    (hfits : Glob.fits pattern text = true) : text = name := by
  induction pattern generalizing name text with
  | nil =>
    obtain rfl := Option.some.inj h
    rw [Glob.fits] at hfits
    exact List.isEmpty_iff.1 hfits
  | cons g gs ih =>
    cases g with
    | char c =>
      obtain ⟨name, hname, rfl⟩ := Option.map_eq_some_iff.1 h
      cases text with
      | nil =>
        rw [Glob.fits] at hfits
        cases hfits
      | cons d text =>
        rw [Glob.fits] at hfits
        simp only [Glob.isRun, Bool.false_eq_true, if_false, Glob.accepts, Bool.and_eq_true,
          beq_iff_eq] at hfits
        obtain ⟨rfl, hfits⟩ := hfits
        rw [ih hname hfits]
    | any | run | directories | within | except => cases h

theorem width_of_fits (hname : IsProper name) (h : Glob.fits pattern name = true) :
    width pattern = 1 := by
  rw [width]
  split
  · next text htext =>
    obtain rfl := fits_literal htext h
    rw [laterComponents_of_isProper hname]
    rfl
  · rfl

/-! ## Depths -/

theorem depth_join (dir : Path) (name : Name) :
    depth (dir.join name) = depth dir + depth [name] := by
  rw [depth, Path.laterComponents_join, List.length_append, depth, depth]

theorem depth_childPath (dir : Path) (name : Name) :
    depth (childPath dir name) = depth dir + depth [name] := by
  rw [depth, Path.laterComponents_childPath, List.length_append, depth, depth]

theorem depth_of_isProper (h : IsProper name) : depth [name] = 1 := by
  rw [depth, laterComponents_of_isProper h]
  rfl

theorem depth_of_onward
    (hhits : .found q ∈ hits fs mustBeDir n rest s → depth q = depth s.path + totalWidth rest)
    (h : .found q ∈ onward fs mustBeDir n rest s) : depth q = depth s.path + totalWidth rest := by
  rcases mem_onward h with ⟨rfl, heq⟩ | h
  · rw [Hit.found.inj heq]
    rfl
  · exact hhits h

/-- The first pattern counts for the name of a candidate. -/
theorem depth_of_named (hname : IsProper name) (hlast : s.path.fileName? = some name)
    (hhits : ∀ rest, (∀ g ∈ rest, isLoose g = false) →
      .found q ∈ hits fs mustBeDir n rest s → depth q = depth s.path + totalWidth rest)
    (htight : ∀ g ∈ patterns, isLoose g = false) (h : .found q ∈ named fs mustBeDir n s patterns) :
    depth q + 1 = depth s.path + totalWidth patterns := by
  obtain ⟨pattern, rest, name', rfl, hname', hfits, h⟩ := mem_named h
  obtain rfl := Option.some.inj (hlast.symm.trans hname')
  have hrest := depth_of_onward (hhits rest fun g hg => htight g (List.mem_cons_of_mem _ hg)) h
  rw [totalWidth, width_of_fits hname hfits]
  omega

/-- What patterns that are not loose find lies at one depth. -/
theorem depth_of_found (hfs : fs.root.WellFormed) (n : Nat) (patterns : List (List Glob))
    (dir : Spot) (htight : ∀ g ∈ patterns, isLoose g = false)
    (h : .found q ∈ hits fs mustBeDir n patterns dir) :
    depth q = depth dir.path + totalWidth patterns := by
  induction n generalizing patterns dir with
  | zero =>
    rw [hits_zero] at h
    cases h
  | succ n ihn =>
    induction patterns generalizing dir with
    | nil => cases h
    | cons pattern rest ih =>
      obtain ⟨hpattern, hrest⟩ := List.forall_mem_cons.1 htight
      have honward : ∀ p, .found q ∈ onward fs mustBeDir (n + 1) rest (fs.spot p) →
          depth q = depth p + totalWidth rest := fun p => depth_of_onward (ih (fs.spot p) hrest)
      rw [totalWidth]
      rcases mem_hits h with ⟨name, hname, h⟩ |
        ⟨hwild, _, ⟨d, hd, h⟩ | ⟨entries, hlist, e, he, h⟩ | ⟨_, _, heq⟩⟩
      · have hwidth : width pattern = depth [name] := by rw [width, hname, depth]
        rw [honward _ h, depth_childPath, hwidth]
        omega
      · have hwidth : width pattern = 1 := by rw [width, hwild]
        rcases mem_fittingDots hd with rfl | rfl
        · have hparent : depth [['.', '.']] = 1 := rfl
          rw [honward _ h, depth_join, hwidth, hparent]
          omega
        · rw [isLoose_of_here hwild hd] at hpattern
          cases hpattern
      · have hname : IsProper e.1 := (names_of_list hfs hlist).2 e he
        rw [follow_candidate_of_ne (ne_directories_of_isLoose hpattern)] at h
        have hdepth := depth_of_named hname (fileName?_entrySpot hname fs _ _)
          (fun rest => ihn rest _) htight h
        rw [path_entrySpot, depth_childPath, depth_of_isProper hname, totalWidth] at hdepth
        omega
      · cases heq

/-- What a candidate comes to without going deeper for `**`. -/
theorem depth_of_direct (hfs : fs.root.WellFormed) (hname : IsProper name)
    (hlast : s.path.fileName? = some name) (htight : ∀ g ∈ rest, isLoose g = false)
    (h : .found q ∈ direct fs mustBeDir n rest s) :
    depth q = depth s.path + (totalWidth rest - 1) := by
  rcases mem_direct h with ⟨rfl, heq⟩ | h
  · rw [Hit.found.inj heq]
    rfl
  · have hdepth := depth_of_named hname hlast (fun rest => depth_of_found hfs n rest s) htight h
    obtain ⟨pattern, rest, name', rfl, hname', hfits, _⟩ := mem_named h
    obtain rfl := Option.some.inj (hlast.symm.trans hname')
    rw [totalWidth, width_of_fits hname hfits] at hdepth ⊢
    omega

/-- What is found below a directory for `**` lies deeper than the directory, and at least as deep as
the patterns behind `**` say. -/
theorem depth_of_found_directories (hfs : fs.root.WellFormed) (n : Nat)
    (htight : ∀ g ∈ rest, isLoose g = false)
    (h : .found q ∈ hits fs mustBeDir n ([.directories] :: rest) dir) :
    depth dir.path < depth q ∧ depth dir.path + totalWidth rest ≤ depth q := by
  induction n generalizing dir with
  | zero =>
    rw [hits_zero] at h
    cases h
  | succ n ih =>
    rcases mem_hits h with ⟨name, hname, _⟩ |
      ⟨_, _, ⟨d, hd, _⟩ | ⟨entries, hlist, e, he, h⟩ | ⟨_, _, heq⟩⟩
    · cases hname
    · cases hd
    · have hname : IsProper e.1 := (names_of_list hfs hlist).2 e he
      have hdepth : depth (entrySpot fs dir.path e.1 e.2).path = depth dir.path + 1 := by
        rw [path_entrySpot, depth_childPath, depth_of_isProper hname]
      rw [follow_candidate_directories (collapse_directories htight), List.mem_append] at h
      rcases h with h | h
      · have hdirect := depth_of_direct hfs hname (fileName?_entrySpot hname fs _ _) htight h
        omega
      · have hbelow := ih (mem_below h)
        omega
    · cases heq

end PluginAudit.Files.Search
