import Cellbook.Disk.Basic

/-!
# Ways to a file in a directory

The path of a file in a directory is the way to the directory and one step down
(`Disk.steps_join`).  Only the way there depends on what is on the disk, and on nothing but its
directories (`Disk.walk`); so an edit of a file, which makes and removes no directory, leaves all
ways as they were (`Disk.Edited.walk_eq`).
-/

namespace Cellbook.Disk

/-! ## Paths of files -/

/-- A name that is one step down from wherever it is taken. -/
structure IsSegment (name : String) : Prop where
  ne_empty : name ≠ ""
  ne_current : name ≠ "."
  ne_parent : name ≠ ".."
  slash_notMem : '/' ∉ name.toList

/-- The steps of a path, but for a last step that stays. -/
def approach (root : String) : List Step :=
  (if root.toList.head? == some '/' then [.root] else []) ++ (segments root).map stepOf

theorem steps_eq (root : String) :
    steps root = approach root ++ if root.toList.getLast? == some '/' then [.current] else [] := rfl

/-- The segments of a text that is cut at slashes. -/
def segmentsOf (text : List Char) : List (List Char) :=
  (Text.cut '/' text).filter fun segment => !segment.isEmpty

theorem segmentsOf_append (text more : List Char) :
    segmentsOf (text ++ '/' :: more) = segmentsOf text ++ segmentsOf more := by
  rw [segmentsOf, Text.cut_append, List.filter_append]
  rfl

namespace IsSegment

variable {name : String} (h : IsSegment name)

include h

theorem toList_ne_nil : name.toList ≠ [] := mt String.toList_eq_nil_iff.mp h.ne_empty

theorem segmentsOf_eq : segmentsOf name.toList = [name.toList] := by
  rw [segmentsOf, Text.cut_of_notMem h.slash_notMem]
  simp [h.ne_empty]

theorem stepOf_eq : stepOf name.toList = .down name := by
  have hcurrent : name.toList ≠ ['.'] := fun heq => h.ne_current (String.toList_inj.mp heq)
  have hparent : name.toList ≠ ['.', '.'] := fun heq => h.ne_parent (String.toList_inj.mp heq)
  rw [stepOf, if_neg (by simpa using hcurrent), if_neg (by simpa using hparent),
    String.ofList_toList]

theorem head?_ne : name.toList.head? ≠ some '/' :=
  fun heq => h.slash_notMem (List.mem_of_head? heq)

theorem getLast?_append_ne (before : List Char) :
    (before ++ name.toList).getLast? ≠ some '/' := by
  rw [List.getLast?_append, List.getLast?_eq_some_getLast h.toList_ne_nil, Option.some_or]
  exact fun heq => h.slash_notMem (Option.some.inj heq ▸ List.getLast_mem h.toList_ne_nil)

end IsSegment

/-- A slash at the end of a text cuts nothing off. -/
theorem segmentsOf_concat (text : List Char) : segmentsOf (text ++ ['/']) = segmentsOf text := by
  rw [segmentsOf_append]
  exact List.append_nil _

/-- The steps of a path that ends in a name, which stands alone or after a slash. -/
theorem steps_of_toList {path name : String} {before : List Char} (hname : IsSegment name)
    (h : path.toList = before ++ name.toList) (hbefore : before = [] ∨ ∃ l, before = l ++ ['/']) :
    steps path =
      (if before.head? == some '/' then [.root] else []) ++ (segmentsOf before).map stepOf ++
        [.down name] := by
  have hhead : ((before ++ name.toList).head? == some '/') = (before.head? == some '/') := by
    cases before with
    | nil => exact beq_eq_false_iff_ne.mpr hname.head?_ne
    | cons first rest => rfl
  have hlast : ((before ++ name.toList).getLast? == some '/') = false :=
    beq_eq_false_iff_ne.mpr (hname.getLast?_append_ne before)
  have hsegments : segments path = segmentsOf before ++ [name.toList] := by
    change segmentsOf path.toList = _
    rw [h, ← hname.segmentsOf_eq]
    rcases hbefore with rfl | ⟨l, rfl⟩
    · rfl
    · rw [segmentsOf_concat, List.append_assoc]
      exact segmentsOf_append l name.toList
  rw [steps, hsegments, h, hhead, hlast, List.map_append, List.map_singleton, hname.stepOf_eq]
  simp

/-- The way to a file in a directory is that to the directory, and one step down. -/
theorem steps_join (root : String) {name : String} (hname : IsSegment name) :
    steps (join root name) = approach root ++ [.down name] := by
  have hplain : ¬ (name.toList.head? == some '/') = true := by simpa using hname.head?_ne
  rw [join, if_neg hplain]
  split
  · next hroot =>
      have hbefore : root.toList = [] ∨ ∃ l, root.toList = l ++ ['/'] := by
        rcases (Bool.or_eq_true _ _).mp hroot with hempty | hslash
        · exact .inl (String.toList_eq_nil_iff.mpr (String.isEmpty_iff.mp hempty))
        · exact .inr (List.getLast?_eq_some_iff.mp (beq_iff_eq.mp hslash))
      exact steps_of_toList hname String.toList_append hbefore
  · next hroot =>
      have hempty : root.toList ≠ [] := fun hnil =>
        hroot ((Bool.or_eq_true _ _).mpr (.inl
          (String.isEmpty_iff.mpr (String.toList_eq_nil_iff.mp hnil))))
      have htext : (root ++ "/" ++ name).toList = root.toList ++ ['/'] ++ name.toList := by
        rw [String.toList_append, String.toList_append]
        rfl
      have hhead : (root.toList ++ ['/']).head? = root.toList.head? := by
        rw [List.head?_append, List.head?_eq_some_head hempty, Option.some_or]
      rw [steps_of_toList hname htext (.inr ⟨root.toList, rfl⟩), segmentsOf_concat, hhead]
      rfl

/-! ## Ways -/

/-- The place that steps lead to, each place on the way a directory, the last step down too. -/
def walk (disk : Disk) : List String → List Step → Except IoFault (List String)
  | place, [] => .ok place
  | _, .root :: rest => disk.walk [] rest
  | place, .current :: rest => disk.walk place rest
  | place, .parent :: rest => disk.walk place.dropLast rest
  | place, .down name :: rest =>
    if maxName < octetCount name then .error nameTooLong
    else
      match disk.nodeAt? (place ++ [name]) with
      | some .directory => disk.walk (place ++ [name]) rest
      | some (.file _) => .error notADirectory
      | none => .error notFound

variable {disk : Disk} {place base : List String} {way : List Step}

/-- A path that begins with a way goes on from where the way leads. -/
theorem resolve_append (h : disk.walk place way = .ok base) (more : List Step) :
    disk.resolve place (way ++ more) = disk.resolve base more := by
  fun_induction disk.walk place way with
  | case1 place =>
      cases h
      rfl
  | case2 _ rest ih => exact ih h
  | case3 place rest ih => exact ih h
  | case4 place rest ih => exact ih h
  | case5 => cases h
  | case6 place name rest hlength hnode ih =>
      rw [List.cons_append, resolve, if_neg hlength]
      dsimp only
      split
      · next hlast =>
          obtain ⟨rfl, rfl⟩ := List.append_eq_nil_iff.mp (List.isEmpty_iff.mp hlast)
          cases h
          rfl
      · rw [hnode]
        exact ih h
  | case7 => cases h
  | case8 => cases h

/-- A path whose way leads nowhere leads nowhere. -/
theorem resolve_concat_of_error {fault : IoFault} (h : disk.walk place way = .error fault)
    (name : String) : disk.resolve place (way ++ [.down name]) = .error fault := by
  have hlast (rest : List Step) : ¬ (rest ++ [Step.down name]).isEmpty = true := by simp
  fun_induction disk.walk place way with
  | case1 => cases h
  | case2 _ rest ih => exact ih h
  | case3 place rest ih => exact ih h
  | case4 place rest ih => exact ih h
  | case5 place first rest hlength =>
      rw [List.cons_append, resolve, if_pos hlength]
      exact h
  | case6 place first rest hlength hnode ih =>
      rw [List.cons_append, resolve, if_neg hlength]
      dsimp only
      rw [if_neg (hlast rest), hnode]
      exact ih h
  | case7 place first rest hlength content hnode =>
      rw [List.cons_append, resolve, if_neg hlength]
      dsimp only
      rw [if_neg (hlast rest), hnode]
      exact h
  | case8 place first rest hlength hnode =>
      rw [List.cons_append, resolve, if_neg hlength]
      dsimp only
      rw [if_neg (hlast rest), hnode]
      exact h

/-- The way to a place of a file is a way to the directory it is in. -/
theorem exists_walk_of_locate {root name : String} (hname : IsSegment name)
    (h : disk.locate (join root name) = .ok place) :
    ∃ base, disk.walk [] (approach root) = .ok base ∧ place = base ++ [name] := by
  rw [locate] at h
  split at h
  · cases h
  split at h
  · cases h
  split at h
  · cases h
  rw [steps_join root hname] at h
  cases hwalk : disk.walk [] (approach root) with
  | error fault =>
      rw [resolve_concat_of_error hwalk] at h
      cases h
  | ok base =>
      rw [resolve_append hwalk, resolve] at h
      split at h
      · cases h
      · cases h
        exact ⟨base, rfl, rfl⟩

/-- The path of a directory leads where the way there does. -/
theorem eq_of_locate {root : String} {found : List String}
    (hwalk : disk.walk [] (approach root) = .ok base) (h : disk.locate root = .ok found) :
    found = base := by
  rw [locate] at h
  split at h
  · cases h
  split at h
  · cases h
  split at h
  · cases h
  rw [steps_eq, resolve_append hwalk] at h
  split at h
  · cases h
    rfl
  · cases h
    rfl

/-! ## Edits -/

/-- A file at a place is written or removed, and nothing else changes. -/
structure Edited (before : Disk) (place : List String) (after : Disk) : Prop where
  ne_nil : place ≠ []
  no_directory : before.nodeAt? place ≠ some .directory
  nodeAt?_eq : ∀ {other : List String}, other ≠ place → after.nodeAt? other = before.nodeAt? other
  mem_iff : ∀ {entry : List String × DiskNode}, entry.1 ≠ place →
    (entry ∈ after.nodes ↔ entry ∈ before.nodes)

namespace Edited

variable {after : Disk} (h : Edited disk place after)

include h

/-- An edit leaves every way as it was. -/
theorem walk_eq {start : List String} (hwalk : disk.walk start way = .ok base) :
    after.walk start way = .ok base := by
  fun_induction disk.walk start way with
  | case1 place =>
      cases hwalk
      rfl
  | case2 _ rest ih => exact ih hwalk
  | case3 place rest ih => exact ih hwalk
  | case4 place rest ih => exact ih hwalk
  | case5 => cases hwalk
  | case6 start name rest hlength hnode ih =>
      have hne : start ++ [name] ≠ place := fun heq => h.no_directory (heq ▸ hnode)
      rw [walk, if_neg hlength, h.nodeAt?_eq hne, hnode]
      exact ih hwalk
  | case7 => cases hwalk
  | case8 => cases hwalk

/-- An edit of a file in a directory leaves the paths of all files there as they were. -/
theorem locate_join {root name : String} (hname : IsSegment name)
    (hwalk : disk.walk [] (approach root) = .ok base) :
    after.locate (join root name) = disk.locate (join root name) := by
  rw [locate, locate, steps_join root hname, resolve_append hwalk, resolve_append (h.walk_eq hwalk)]
  rfl

theorem locate_root {root : String} (hwalk : disk.walk [] (approach root) = .ok base) :
    after.locate root = disk.locate root := by
  rw [locate, locate, steps_eq, resolve_append hwalk, resolve_append (h.walk_eq hwalk)]
  cases root.toList.getLast? == some '/' <;> rfl

end Edited

/-! ### Writes and removals -/

theorem nodeAt?_set (nodes : List (List String × DiskNode)) (hplace : place ≠ [])
    (node : DiskNode) (other : List String) :
    (⟨Keyed.set place node nodes⟩ : Disk).nodeAt? other =
      if other = place then some node else (⟨nodes⟩ : Disk).nodeAt? other := by
  by_cases hother : other = []
  · rw [hother, if_neg hplace.symm]
    rfl
  · have htop : ¬ other.isEmpty = true := mt List.isEmpty_iff.mp hother
    rw [nodeAt?, nodeAt?, if_neg htop, if_neg htop]
    exact Keyed.lookup_set place node nodes other

theorem nodeAt?_erase_of_ne (nodes : List (List String × DiskNode)) {other : List String}
    (h : other ≠ place) :
    (⟨Keyed.erase place nodes⟩ : Disk).nodeAt? other = (⟨nodes⟩ : Disk).nodeAt? other := by
  rw [nodeAt?, nodeAt?]
  split
  · rfl
  · exact (Keyed.lookup_erase place nodes other).trans (if_neg h)

/-- A write fails and changes nothing, or sets the content of the file that its path leads to. -/
theorem write_cases (disk : Disk) (path : String) (content : Bytes) :
    (∃ fault, disk.write path content = (disk, .error fault)) ∨
      ∃ place, disk.locate path = .ok place ∧ disk.nodeAt? place ≠ some .directory ∧
        disk.nodeAt? place.dropLast = some .directory ∧
        disk.write path content = (⟨Keyed.set place (.file content) disk.nodes⟩, .ok ()) := by
  rw [write]
  rcases disk.locate path with fault | place
  · exact .inl ⟨fault, rfl⟩
  · dsimp only
    split
    · exact .inl ⟨_, rfl⟩
    · next hfile =>
        split
        · exact .inl ⟨_, rfl⟩
        · next hparent =>
            refine .inr ⟨place, rfl, ?_, ?_, rfl⟩
            · simpa using hfile
            · simpa using hparent

/-- A removal fails and changes nothing, or takes away the file that its path leads to. -/
theorem remove_cases (disk : Disk) (path : String) :
    (∃ fault, disk.remove path = (disk, .error fault)) ∨
      ∃ place content, disk.locate path = .ok place ∧ disk.nodeAt? place = some (.file content) ∧
        disk.remove path = (⟨Keyed.erase place disk.nodes⟩, .ok ()) := by
  rw [remove]
  rcases disk.locate path with fault | place
  · exact .inl ⟨fault, rfl⟩
  · dsimp only
    split
    · exact .inl ⟨_, rfl⟩
    · exact .inl ⟨_, rfl⟩
    · next content hnode => exact .inr ⟨place, content, rfl, hnode, rfl⟩

/-- The top is a directory. -/
theorem ne_nil_of_no_directory (h : disk.nodeAt? place ≠ some .directory) : place ≠ [] := by
  rintro rfl
  exact h rfl

theorem edited_set (h : disk.nodeAt? place ≠ some .directory) (content : Bytes) :
    Edited disk place ⟨Keyed.set place (.file content) disk.nodes⟩ where
  ne_nil := ne_nil_of_no_directory h
  no_directory := h
  nodeAt?_eq hother :=
    (nodeAt?_set disk.nodes (ne_nil_of_no_directory h) _ _).trans (if_neg hother)
  mem_iff := Keyed.mem_set_iff_of_ne

theorem edited_erase (h : disk.nodeAt? place ≠ some .directory) :
    Edited disk place ⟨Keyed.erase place disk.nodes⟩ where
  ne_nil := ne_nil_of_no_directory h
  no_directory := h
  nodeAt?_eq hother := nodeAt?_erase_of_ne disk.nodes hother
  mem_iff hentry := by simp [Keyed.erase, hentry]

/-! ## Listings -/

/-- The entry of a file in a directory. -/
def IsFileIn (base : List String) (name : String) (entry : List String × DiskNode) : Prop :=
  (∃ content, entry.2 = .file content) ∧ entry.1.dropLast = base ∧ entry.1.getLast? = some name

/-- A directory lists the files in it. -/
theorem list_of_directory {path : String} (hlocate : disk.locate path = .ok base)
    (hnode : disk.nodeAt? base = some .directory) :
    ∃ names, disk.list path = .ok names ∧
      ∀ name, name ∈ names ↔ ∃ entry ∈ disk.nodes, IsFileIn base name entry := by
  rw [list, hlocate]
  dsimp only
  rw [hnode]
  refine ⟨_, rfl, fun name => ?_⟩
  rw [List.mem_filterMap]
  refine exists_congr fun entry => and_congr_right fun _ => ?_
  rcases entry with ⟨place, content | _⟩
  · simp [IsFileIn]
  · simp [IsFileIn]

/-- What is no directory is not listed, whatever files there are. -/
theorem list_eq_of_ne {after : Disk} {path : String} (hlocate : disk.locate path = .ok base)
    (hlocate' : after.locate path = .ok base) (hnode : disk.nodeAt? base ≠ some .directory)
    (hnode' : after.nodeAt? base = disk.nodeAt? base) :
    ∃ fault, disk.list path = .error fault ∧ after.list path = .error fault := by
  rw [list, list, hlocate, hlocate']
  dsimp only
  rw [hnode']
  rcases hat : disk.nodeAt? base with _ | content | _
  · exact ⟨_, rfl, rfl⟩
  · exact ⟨_, rfl, rfl⟩
  · exact absurd hat hnode

end Cellbook.Disk
