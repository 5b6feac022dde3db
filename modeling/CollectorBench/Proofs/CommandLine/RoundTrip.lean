import CollectorBench.Proofs.CommandLine.Printed
import CollectorBench.Number.Integer
import Mathlib.Data.List.Perm.Basic

/-! Reading undoes printing.
A spelling that is read makes one choice, choices that fit the same options can be made in any order,
and the counts that are written are the counts that are read. The word for the system catalog is
taken out first, so nothing depends on its places. -/
namespace CollectorBench
open Number

/-- A choice of what some options have. -/
def Choice.Fits (options : Options) : Choice → Prop
  | .layout shape => options.layout = shape
  | .root directory => options.root = some directory
  | _ => True

namespace Options

def choose (options : Options) : Choice → Options
  | .layout layout => { options with layout }
  | .strict => options.turnOn .strict
  | .strictLabels => options.turnOn .strictLabels
  | .summary => options.turnOn .summary
  | .verbose => options.turnOn .verbose
  | .root directory => { options with root := some directory }

theorem choose_comm {options : Options} {first second : Choice} (one : first.Fits options)
    (other : second.Fits options) (start : Options) :
    (start.choose first).choose second = (start.choose second).choose first := by
  cases first <;> cases second <;> try rfl
  · obtain rfl := one.symm.trans other
    rfl
  · obtain rfl := Option.some.inj (one.symm.trans other)
    rfl

theorem fits_of_mem_choices {options : Options} {choice : Choice}
    (member : choice ∈ options.choices) : choice.Fits options := by
  cases choice with
  | layout shape =>
    have given : options.layout = .boxPlots ∧ shape = .boxPlots := by
      simpa [choices] using member
    exact given.1.trans given.2.symm
  | root directory =>
    have given : options.root = some directory := by simpa [choices] using member
    exact given
  | strict | strictLabels | summary | verbose => trivial

theorem foldl_choices {options : Options} (unsought : options.fragment = none) :
    options.choices.foldl choose {} = options := by
  obtain ⟨layout,policy,strict,summary,root,verbose,fragment⟩ := options
  obtain rfl : fragment = none := unsought
  cases layout <;> cases policy <;> cases strict <;> cases summary <;> cases verbose <;>
    cases root <;> rfl

theorem Chosen.fits {options : Options} {chosen : List Choice} (chooses : options.Chosen chosen) :
    ∀ choice ∈ chosen, choice.Fits options := by
  intro choice member
  rcases chooses with order | ⟨plain,order⟩
  · exact fits_of_mem_choices (order.subset member)
  · rcases List.mem_cons.mp (order.subset member) with rfl | inside
    · exact plain
    · exact fits_of_mem_choices inside

/-- Options chosen in any order come to the same. -/
theorem foldl_chosen {options : Options} (unsought : options.fragment = none)
    {chosen : List Choice} (chooses : options.Chosen chosen) :
    chosen.foldl choose {} = options := by
  have commutes : ∀ first ∈ chosen, ∀ second ∈ chosen, ∀ start : Options,
      (start.choose first).choose second = (start.choose second).choose first :=
    fun first one second other => choose_comm (chooses.fits first one) (chooses.fits second other)
  -- The layout that goes without saying is the one that the reader begins with.
  rcases chooses with order | ⟨_,order⟩
  · exact (order.foldl_eq' commutes {}).trans (foldl_choices unsought)
  · exact (order.foldl_eq' commutes {}).trans (foldl_choices unsought)

end Options

namespace CommandLine

theorem scan_spelling {choice : Choice} {spelling : List String}
    (spelled : spelling ∈ choice.spellings) (options : Options) (rest : List String) :
    scan options (spelling ++ rest) = scan (options.choose choice) rest := by
  cases choice with
  | layout shape =>
    cases shape with
    | groupedBars => rcases List.mem_pair.mp spelled with rfl | rfl <;> rfl
    | boxPlots =>
      rcases List.mem_cons.mp spelled with rfl | later
      · rfl
      · rcases List.mem_pair.mp later with rfl | rfl <;> rfl
  | verbose => rcases List.mem_pair.mp spelled with rfl | rfl <;> rfl
  | root directory | strict | strictLabels | summary =>
    obtain rfl := List.mem_singleton.mp spelled
    rfl

/-- Options are read one after the other up to what comes behind them. -/
theorem scan_spells {chosen : List Choice} {front : List String} (spells : Spells chosen front)
    (options : Options) (rest : List String) :
    scan options (front ++ rest) = scan (chosen.foldl Options.choose options) rest := by
  obtain ⟨spelled,each,rfl⟩ := spells
  induction each generalizing options with
  | nil => rfl
  | cons first later ih =>
    rw [List.flatten_cons,List.append_assoc,scan_spelling first,ih,List.foldl_cons]

section Counts
variable (count : UInt64)

theorem toString_count : toString count = String.ofList (natText count.toNat) :=
  rfl

theorem isCount_toString : isCount (toString count) = true := by
  have digits : (natText count.toNat).all Char.isDigit = true :=
    List.all_eq_true.mpr fun _ member => isDigit_of_mem_natText member
  have some : String.ofList (natText count.toNat) ≠ "" := by
    intro empty
    exact natText_ne_nil count.toNat (by simpa using congrArg String.toList empty)
  simp [isCount,toString_count,some,digits]

theorem readCount_toString : readCount (toString count) = .ok count := by
  have small : count.toNat < 0x10000000000000000 := count.toNat_lt
  simp [readCount,toString_count,readUInt64,readNat_natText,small]

theorem beginsWithDash_toString : beginsWithDash (toString count) = false := by
  obtain ⟨c,rest,shape,notMinus,_⟩ := head_natText_not_sign count.toNat
  simp [beginsWithDash,toString_count,shape,notMinus]

theorem toString_ne_catalogWord : toString count ≠ catalogWord := by
  intro same
  have undashed := beginsWithDash_toString count
  rw [same] at undashed
  cases undashed

end Counts

theorem unmarked_of_spells {chosen : List Choice} {front : List String}
    (spells : Spells chosen front) (free : .root ⟨catalogWord⟩ ∉ chosen) :
    catalogWord ∉ front := by
  obtain ⟨spelled,each,rfl⟩ := spells
  induction each with
  | nil => exact List.not_mem_nil
  | cons first later ih =>
    obtain ⟨differs,rest⟩ := not_or.mp (mt List.mem_cons.mpr free)
    rw [List.flatten_cons,List.mem_append,not_or]
    refine ⟨?_,ih rest⟩
    intro member
    rcases unmarked_or_root first member with unmarked | root
    · exact unmarked rfl
    · exact differs root.symm

/-- Two counts in front of a workload are the counts of its runs. -/
theorem readNames_counts {isFile : FilePath → Bool} {request : RunRequest}
    (workload : ¬(FilePath.isCsv ⟨request.workload⟩ = true ∧ isFile ⟨request.workload⟩ = true)) :
    readNames isFile request.catalog (toString request.runs :: toString request.warmupRuns ::
      request.workload :: request.extraArguments) = .ok (.run request) := by
  have name : named isFile request.catalog request.runs request.warmupRuns request.workload
      request.extraArguments = .run request := by
    unfold named
    rw [if_neg (by simpa using workload)]
  simp only [readNames,isCount_toString,readCount_toString,Bool.and_self,if_true]
  rw [← name]
  rfl

theorem scan_printed {options : Options} {chosen : List Choice} {front : List String}
    (unsought : options.fragment = none) (chooses : options.Chosen chosen)
    (spells : Spells chosen front) (count : UInt64) (rest : List String) :
    scan {} (front ++ toString count :: rest) = .ok (.words options (toString count :: rest)) := by
  rw [scan_spells spells,Options.foldl_chosen unsought chooses,scan]
  simp [beginsWithDash_toString]

/-- The words that print a run with its options are read as that run with those options, whatever the
order and the spellings of the options and the places of the word for the system catalog. The
benchmarker is then given the two counts as they were written, the library, and the words behind the
workload as they are. -/
theorem read_printed {isFile : FilePath → Bool} {options : Options} {request : RunRequest}
    (unsought : options.fragment = none) (root : options.root ≠ some ⟨"--sys"⟩)
    (dashless : beginsWithDash request.workload = false)
    (workload : ¬(FilePath.isCsv ⟨request.workload⟩ = true ∧ isFile ⟨request.workload⟩ = true))
    (passed : "--sys" ∉ request.extraArguments) :
    (∀ program words, request.Printed options words →
      read isFile (program :: words) = .ok { invocation := .run request, options }) ∧
    ∀ library, request.arguments library =
      ["--runs",toString request.runs,"--warmup_runs",toString request.warmupRuns,library.text] ++
        request.extraArguments := by
  refine ⟨?_,fun _ => rfl⟩
  rintro program words ⟨chosen,front,chooses,spells,interspersed,marked⟩
  have unmarkedFront : "--sys" ∉ front := by
    refine unmarked_of_spells spells ?_
    intro member
    exact root (chooses.fits _ member)
  have named : request.workload ≠ "--sys" := by
    intro same
    rw [same] at dashless
    cases dashless
  have free : "--sys" ∉ front ++ toString request.runs :: toString request.warmupRuns ::
      request.workload :: request.extraArguments := by
    have runs : toString request.runs ≠ "--sys" := toString_ne_catalogWord _
    have warmupRuns : toString request.warmupRuns ≠ "--sys" := toString_ne_catalogWord _
    simp [unmarkedFront,Ne.symm runs,Ne.symm warmupRuns,Ne.symm named,passed]
  have kept : words.filter (fun word => decide (word ≠ catalogWord)) = _ := interspersed.filter free
  have scanned := scan_printed unsought chooses spells request.runs
    (toString request.warmupRuns :: request.workload :: request.extraArguments)
  have catalog : (if catalogWord ∈ words then .sys else .con) = request.catalog := by
    split
    · next present => exact (marked.mp present).symm
    · next absent =>
      cases shape : request.catalog with
      | con => rfl
      | sys => exact absurd (marked.mpr shape) absent
  unfold read
  simp only [List.drop_succ_cons,List.drop_zero,kept,scanned,unsought,catalog,
    readNames_counts workload]
  rfl

/-- A run that passes on what could be an option and a count. -/
def longRun : RunRequest :=
  { runs := 18446744073709551615, warmupRuns := 0, workload := "gol", catalog := .sys,
    extraArguments := ["--summary","7"] }

def longOptions : Options :=
  { layout := .boxPlots, root := some ⟨"--strict"⟩, verbose := true }

def longWords : List String :=
  ["-v","--sys","--layout","boxplot","--root","--sys","--strict","18446744073709551615","0","gol",
    "--sys","--summary","7"]

theorem printed_long : longRun.Printed longOptions longWords := by
  refine ⟨[.verbose,.layout .boxPlots,.root ⟨"--strict"⟩],
    ["-v","--layout","boxplot","--root","--strict"],.inl (by decide),?_,?_,by decide⟩
  · refine ⟨[["-v"],["--layout","boxplot"],["--root","--strict"]],?_,rfl⟩
    exact .cons (by decide) (.cons (by decide) (.cons (by decide) .nil))
  · have passed : Interspersed "--sys" longRun.extraArguments ["--sys","--summary","7"] :=
      .mark (.word _ (.word _ .nil))
    have named := Interspersed.word "0" (.word "gol" passed)
    have counted := Interspersed.word "18446744073709551615" named
    have rooted := Interspersed.word "--root" (.mark (.word "--strict" counted))
    exact .word "-v" (.mark (.word "--layout" (.word "boxplot" rooted)))

theorem read_printed_long :
    longRun.Printed longOptions longWords ∧
    read (fun _ => true) ("gcbench" :: longWords) =
      .ok { invocation := .run longRun, options := longOptions } := by
  have root : longOptions.root ≠ some ⟨"--sys"⟩ := by decide
  have passed : "--sys" ∉ longRun.extraArguments := by decide
  have reads := (@read_printed (fun _ => true) _ _ rfl root rfl (by decide) passed).1
  exact ⟨printed_long,reads "gcbench" longWords printed_long⟩

end CommandLine
end CollectorBench
