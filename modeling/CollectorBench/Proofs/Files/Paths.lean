import CollectorBench.Proofs.Files.Walk
import CollectorBench.Proofs.Text.Pieces

/-! Paths of what lies in a directory.
A name behind the path of a directory is one more step of a walk and one more component, so the
files of a directory are ordered by their names. -/
namespace CollectorBench
open Text

/-- A name that ends in `.csv` with something before that. -/
def CsvName (name : String) : Prop :=
  ∃ stem, stem ≠ "" ∧ name = stem ++ ".csv"

/-- A name that is a component of a path. -/
structure PathName (name : String) : Prop where
  filled : name ≠ ""
  notHere : name ≠ "."
  notUp : name ≠ ".."
  noSlash : '/' ∉ name.toList

instance (name : String) : Decidable (PathName name) :=
  decidable_of_iff (name ≠ "" ∧ name ≠ "." ∧ name ≠ ".." ∧ '/' ∉ name.toList)
    ⟨fun ⟨filled,notHere,notUp,noSlash⟩ => ⟨filled,notHere,notUp,noSlash⟩,
    fun proper => ⟨proper.filled,proper.notHere,proper.notUp,proper.noSlash⟩⟩

theorem FileName.pathName {name : String} (proper : FileName name) : PathName name :=
  ⟨proper.filled,proper.notHere,proper.notUp,proper.noSlash⟩

theorem PathName.toList_ne_nil {name : String} (proper : PathName name) : name.toList ≠ [] :=
  fun empty => proper.filled (String.toList_inj.mp empty)

theorem PathName.head?_ne {name : String} (proper : PathName name) :
    name.toList.head? ≠ some '/' :=
  fun slash => proper.noSlash (List.mem_of_head? slash)

namespace FilePath

/-- A path that a slash and a name can follow. -/
def Extensible (path : FilePath) : Prop :=
  path.text ≠ "" ∧ path.text.toList.getLast? ≠ some '/'

private theorem component?_name {name : String} (proper : PathName name) :
    component? name.toList = some (.name name) := by
  unfold component?
  split
  · next none => exact absurd none proper.toList_ne_nil
  · next point => exact absurd (String.toList_inj.mp point) proper.notHere
  · next points => exact absurd (String.toList_inj.mp points) proper.notUp
  · rw [String.ofList_toList]

private theorem step?_name {name : String} (proper : PathName name) :
    step? name.toList = some (.name name) := by
  have point : name.toList ≠ ['.'] := fun same => proper.notHere (String.toList_inj.mp same)
  rw [step?,if_neg point,component?_name proper]

theorem text_join {directory : FilePath} (extensible : directory.Extensible) {name : String}
    (proper : PathName name) : (directory.join name).text = directory.text ++ "/" ++ name := by
  unfold join
  rw [if_neg proper.head?_ne,if_neg (not_or.mpr extensible)]

/-- A name stands behind the path of its directory, or behind that and a slash. -/
theorem exists_gap (directory : FilePath) {name : String}
    (relative : name.toList.head? ≠ some '/') :
    ∃ gap, (gap = "" ∨ gap = "/") ∧ (directory.join name).text = directory.text ++ gap ++ name := by
  unfold join
  rw [if_neg relative]
  split
  · exact ⟨"",.inl rfl,by rw [String.append_empty]⟩
  · exact ⟨"/",.inr rfl,rfl⟩

theorem exists_text_join (directory : FilePath) {name : String}
    (relative : name.toList.head? ≠ some '/') :
    ∃ front, (directory.join name).text = front ++ name := by
  obtain ⟨gap,-,shape⟩ := directory.exists_gap relative
  exact ⟨_,shape⟩

theorem extensible_join (directory : FilePath) {name : String} (proper : PathName name) :
    (directory.join name).Extensible := by
  obtain ⟨front,shape⟩ := directory.exists_text_join proper.head?_ne
  constructor
  · rw [shape]
    intro empty
    have none := congrArg String.toList empty
    rw [String.toList_append,String.toList_empty,List.append_eq_nil_iff] at none
    exact proper.toList_ne_nil none.2
  · obtain ⟨last,isLast⟩ := Option.ne_none_iff_exists'.mp
      (mt List.getLast?_eq_none_iff.mp proper.toList_ne_nil)
    rw [shape,String.toList_append,List.getLast?_append,isLast,Option.some_or]
    intro slash
    exact proper.noSlash (List.mem_of_getLast? (isLast.trans slash))

private theorem pieces_join {directory : FilePath} (extensible : directory.Extensible)
    {name : String} (proper : PathName name) :
    (directory.join name).pieces = directory.pieces ++ [name.toList] := by
  have slash : "/".toList = ['/'] := rfl
  rw [pieces,text_join extensible proper,String.toList_append,String.toList_append,slash,
    List.append_assoc,List.singleton_append,fields_append_separator,
    fields_of_not_mem proper.noSlash]
  rfl

private theorem Extensible.endsInSlash {path : FilePath} (extensible : path.Extensible) :
    path.endsInSlash = false := by
  simpa [FilePath.endsInSlash] using extensible.2

private theorem head?_join {directory : FilePath} (filled : directory.text ≠ "") {name : String}
    (proper : PathName name) :
    (directory.join name).text.toList.head? = directory.text.toList.head? := by
  obtain ⟨gap,-,shape⟩ := directory.exists_gap proper.head?_ne
  obtain ⟨first,later,letters⟩ := List.exists_cons_of_ne_nil fun empty =>
    filled (String.toList_inj.mp empty)
  rw [shape,String.toList_append,String.toList_append,letters]
  rfl

theorem steps_join {directory : FilePath} (extensible : directory.Extensible) {name : String}
    (proper : PathName name) :
    (directory.join name).steps = directory.steps ++ [.name name] := by
  unfold steps
  rw [head?_join extensible.1 proper,(extensible_join directory proper).endsInSlash,
    extensible.endsInSlash,pieces_join extensible proper,List.filterMap_append]
  simp [step?_name proper]

/-- Behind a slash a name takes the place of the empty piece there. -/
private theorem exists_pieces_join {directory : FilePath} {name : String} (proper : PathName name)
    (closed : directory.text.toList.getLast? = some '/') :
    ∃ first later, directory.pieces = first :: (later ++ [[]]) ∧
      (directory.join name).pieces = first :: (later ++ [name.toList]) := by
  obtain ⟨front,shape⟩ := List.getLast?_eq_some_iff.mp closed
  obtain ⟨first,later,cut⟩ := List.exists_cons_of_ne_nil (fields_ne_nil '/' front)
  have joined : (directory.join name).text.toList = front ++ '/' :: name.toList := by
    unfold join
    rw [if_neg proper.head?_ne,if_pos (.inr closed)]
    simp [shape]
  refine ⟨first,later,?_,?_⟩
  · rw [pieces,shape,fields_append_separator,cut]
    rfl
  · rw [pieces,joined,fields_append_separator,cut,fields_of_not_mem proper.noSlash]
    rfl

/-- A name behind the path of a directory is one step more, in the place of the step that a slash at
its end stands for. -/
theorem exists_steps_join {directory : FilePath} (filled : directory.text ≠ "") {name : String}
    (proper : PathName name) : ∃ before, (directory.join name).steps = before ++ [.name name] ∧
      (directory.steps = before ∨ directory.steps = before ++ [.here]) := by
  by_cases closed : directory.text.toList.getLast? = some '/'
  · obtain ⟨first,later,around,inside⟩ := exists_pieces_join proper closed
    have ends : directory.endsInSlash = true := decide_eq_true closed
    refine ⟨(if directory.text.toList.head? = some '/' then [.root] else []) ++
      (first :: later).filterMap step?,?_,.inr ?_⟩
    · unfold steps
      rw [head?_join filled proper,(extensible_join directory proper).endsInSlash,inside,
        ← List.cons_append,List.filterMap_append]
      simp [step?_name proper]
    · have nothing : step? [] = none := rfl
      unfold steps
      rw [ends,around,← List.cons_append,List.filterMap_append]
      simp [nothing]
  · exact ⟨_,steps_join ⟨filled,closed⟩ proper,.inl rfl⟩

private theorem pieces_ne {path : FilePath} (filled : path.text ≠ "") : path.pieces ≠ [[]] := by
  intro empty
  have single := congrArg List.length empty
  rw [pieces,length_fields,List.length_singleton,Nat.add_eq_right,List.count_eq_zero] at single
  rw [pieces,fields_of_not_mem single,List.singleton_inj] at empty
  exact filled (String.toList_inj.mp empty)

/-- What the pieces of a path stand for if at least one more comes behind them. -/
private def leading (first : List Char) (later : List (List Char)) : List Component :=
  (if first = [] then [.root] else if first = ['.'] then [.here] else (component? first).toList) ++
    later.filterMap component?

private theorem components_of_pieces {path : FilePath} {first piece : List Char}
    {later : List (List Char)} (cut : path.pieces = first :: (later ++ [piece])) :
    path.components = leading first later ++ (component? piece).toList := by
  have behind : later ++ [piece] ≠ [] := by simp
  unfold components leading
  rw [cut]
  simp only [if_neg behind,List.filterMap_append,List.append_assoc]
  cases named : component? piece <;> simp [named]

/-- A path that a slash and a name can follow stands for the same with and without them. -/
private theorem Extensible.components_eq {path : FilePath} (extensible : path.Extensible)
    {first : List Char} {later : List (List Char)} (cut : path.pieces = first :: later) :
    path.components = leading first later := by
  have filled := pieces_ne extensible.1
  unfold components leading
  rw [cut] at filled ⊢
  dsimp only
  congr 1
  split
  · next none =>
    rw [if_neg]
    rintro rfl
    exact filled (by rw [none])
  · rfl

private theorem components_join_empty {name : String} (proper : PathName name) :
    (join ⟨""⟩ name).components = [.name name] := by
  have joined : join ⟨""⟩ name = ⟨name⟩ := by
    unfold join
    rw [if_neg proper.head?_ne,if_pos (.inl rfl),String.empty_append]
  have cut : pieces ⟨name⟩ = [name.toList] := fields_of_not_mem proper.noSlash
  have point : name.toList ≠ ['.'] := fun same => proper.notHere (String.toList_inj.mp same)
  unfold components
  rw [joined,cut]
  simp only [if_neg proper.toList_ne_nil,if_neg point,component?_name proper]
  rfl

private theorem components_join_slash {directory : FilePath} {name : String}
    (proper : PathName name) (closed : directory.text.toList.getLast? = some '/') :
    (directory.join name).components = directory.components ++ [.name name] := by
  obtain ⟨first,later,around,inside⟩ := exists_pieces_join proper closed
  rw [components_of_pieces around,components_of_pieces inside,component?_name proper]
  simp [component?]

/-- A name behind the path of any directory is one component more. -/
theorem components_join (directory : FilePath) {name : String} (proper : PathName name) :
    (directory.join name).components = directory.components ++ [.name name] := by
  by_cases filled : directory.text = ""
  · obtain ⟨_⟩ := directory
    obtain rfl := filled
    exact components_join_empty proper
  by_cases closed : directory.text.toList.getLast? = some '/'
  · exact components_join_slash proper closed
  have extensible : directory.Extensible := ⟨filled,closed⟩
  obtain ⟨first,later,cut⟩ := List.exists_cons_of_ne_nil (fields_ne_nil '/' directory.text.toList)
  have joined : (directory.join name).pieces = first :: (later ++ [name.toList]) := by
    rw [pieces_join extensible proper,pieces,cut,List.cons_append]
  rw [components_of_pieces joined,component?_name proper,extensible.components_eq cut]
  rfl

theorem fileName?_join (directory : FilePath) {name : String} (proper : PathName name) :
    (directory.join name).fileName? = some name := by
  rw [fileName?,components_join directory proper,List.getLast?_concat]

private theorem cutName_eq_iff {after : List Char} (inside : '.' ∉ after) (name : List Char) :
    (cutName name).2 = some after ↔ ∃ before, before ≠ [] ∧ name = before ++ '.' :: after := by
  unfold cutName
  constructor
  · intro cut
    split at cut
    · next before behind found =>
      split at cut
      · simp at cut
      · next filled =>
        simp only [Option.some.injEq] at cut
        exact ⟨before,filled,cut ▸ eq_of_cutLast found⟩
    · simp at cut
  · rintro ⟨before,filled,rfl⟩
    simp [cutLast_append inside,filled]

theorem isCsv_join (directory : FilePath) {name : String} (proper : PathName name) :
    (directory.join name).isCsv = true ↔ CsvName name := by
  have ending : ".csv".toList = '.' :: "csv".toList := rfl
  have cut := cutName_eq_iff (show '.' ∉ "csv".toList by decide) name.toList
  simp only [isCsv,extension?,fileName?_join directory proper,Option.bind_some,decide_eq_true_eq,
    Option.map_eq_some_iff]
  constructor
  · rintro ⟨after,found,same⟩
    have behind : after = "csv".toList := by rw [← same,String.toList_ofList]
    obtain ⟨before,filled,shape⟩ := cut.mp (behind ▸ found)
    refine ⟨String.ofList before,fun none => filled ?_,String.toList_inj.mp ?_⟩
    · rw [← String.toList_ofList (l := before),none,String.toList_empty]
    · rw [String.toList_append,ending,String.toList_ofList (l := before),shape]
  · rintro ⟨stem,filled,rfl⟩
    refine ⟨"csv".toList,cut.mpr ⟨stem.toList,fun none => filled (String.toList_inj.mp none),?_⟩,
      String.ofList_toList⟩
    rw [String.toList_append,ending]

theorem Component.key_injective (first second : Component) (same : first.key = second.key) :
    first = second := by
  cases first <;> cases second <;> simp only [key,List.cons.injEq] at same ⊢
  case name.name text other =>
    have letters := (List.map_inj_right fun _ _ codes => Char.toNat_inj.mp codes).mp same.2
    rw [String.toList_inj.mp letters]
  all_goals omega

/-- Neither of two paths is behind the other only if they are the same component by component. -/
theorem components_eq_of_tied {a b : FilePath} (first : notAfter a b = true)
    (second : notAfter b a = true) : a.components = b.components := by
  simp only [notAfter,Bool.not_eq_true',decide_eq_false_iff_not] at first second
  have keys : a.sortKey = b.sortKey := Std.Trichotomous.trichotomous _ _ second first
  exact (List.map_inj_right Component.key_injective).mp keys

private theorem key_name_lt {first second : String} (before : first < second) :
    (Component.name first).key < (Component.name second).key :=
  List.cons_lt_cons_iff.mpr (.inr ⟨rfl,List.map_lt (fun _ _ below => below) (String.lt_iff.mp before)⟩)

/-- The files of a directory are ordered by their names. -/
theorem sortKey_join_lt (directory : FilePath) {first second : String} (proper : PathName first)
    (other : PathName second) (before : first < second) :
    (directory.join first).sortKey < (directory.join second).sortKey := by
  simp only [sortKey,components_join directory proper,components_join directory other,
    List.map_append,List.map_cons,List.map_nil]
  exact List.append_left_lt (List.cons_lt_cons_iff.mpr (.inl (key_name_lt before)))

theorem sortKey_join_lt_iff (directory : FilePath) {first second : String}
    (proper : PathName first) (other : PathName second) :
    (directory.join first).sortKey < (directory.join second).sortKey ↔ first < second := by
  refine ⟨fun less => Decidable.byContradiction fun notBefore => ?_,
    sortKey_join_lt directory proper other⟩
  have notBehind : ¬ second < first := fun behind =>
    List.lt_asymm less (sortKey_join_lt directory other proper behind)
  obtain rfl := String.le_antisymm notBehind notBefore
  exact List.lt_irrefl _ less

private theorem step?_long {piece : List Char} (long : 3 ≤ piece.length) :
    step? piece = some (.name (String.ofList piece)) := by
  have point : piece ≠ ['.'] := by
    rintro rfl
    simp at long
  rw [step?,if_neg point]
  unfold component?
  split <;> simp at long ⊢

/-- A long enough ending of a path without a slash belongs to the name that the path ends in. -/
theorem exists_steps {path : FilePath} {front ending : List Char}
    (shape : path.text.toList = front ++ ending) (noSlash : '/' ∉ ending) (long : 3 ≤ ending.length) :
    ∃ before name, path.steps = before ++ [.name name] ∧ ending <:+ name.toList := by
  obtain ⟨earlier,last,cut⟩ := fields_append_of_not_mem noSlash front
  have named := step?_long (show 3 ≤ (last ++ ending).length by rw [List.length_append]; omega)
  have closed : path.endsInSlash = false := by
    obtain ⟨c,isLast⟩ := Option.ne_none_iff_exists'.mp
      (mt List.getLast?_eq_none_iff.mp (List.ne_nil_of_length_pos (Nat.lt_of_lt_of_le (by decide) long)))
    have differs : c ≠ '/' := fun slash => noSlash (slash ▸ List.mem_of_getLast? isLast)
    simp [endsInSlash,shape,List.getLast?_append,isLast,differs]
  refine ⟨(if path.text.toList.head? = some '/' then [.root] else []) ++ earlier.filterMap step?,
    String.ofList (last ++ ending),?_,?_⟩
  · simp only [steps,pieces,closed,shape,cut,List.filterMap_append,List.filterMap_cons,named,
      List.filterMap_nil]
    simp
  · rw [String.toList_ofList]
    exact List.suffix_append last ending

end FilePath
end CollectorBench
