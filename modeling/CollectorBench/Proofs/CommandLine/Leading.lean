import CollectorBench.Proofs.CommandLine.CatalogWord

/-! What stands in front of a workload.
Options are read up to the first word that does not begin with a dash, and then counts up to the name.
A word behind a count is not looked at again, so it is taken for the workload even if it could be an
option. -/
namespace CollectorBench

/-- Words that are options, each with its value, and what they change. -/
inductive OptionWords : Options → List String → Options → Prop
  | nil (options : Options) : OptionWords options [] options
  | switch {options result : Options} {switch : Switch} {word : String} {later : List String}
    (spelled : Flag.ofWord? word = some (.switch switch))
    (behind : OptionWords (options.turnOn switch) later result) :
    OptionWords options (word :: later) result
  | setting {options changed result : Options} {setting : Setting} {word value : String}
    {later : List String} (spelled : Flag.ofWord? word = some (.setting setting))
    (given : options.set setting value = .ok changed) (behind : OptionWords changed later result) :
    OptionWords options (word :: value :: later) result

namespace CommandLine

/-- No count, one or two, and the numbers of runs and of warmup runs that they ask for. -/
inductive Counts : List String → UInt64 → UInt64 → Prop
  | none : Counts [] 1 1
  | one {word : String} {runs : UInt64} (digits : isCount word = true)
    (value : readCount word = .ok runs) : Counts [word] runs 0
  | two {first second : String} {runs warmupRuns : UInt64} (digits : isCount first = true)
    (digitsBehind : isCount second = true) (value : readCount first = .ok runs)
    (valueBehind : readCount second = .ok warmupRuns) : Counts [first,second] runs warmupRuns

theorem beginsWithDash_of_flag {word : String} {flag : Flag} (spelled : Flag.ofWord? word = some flag) :
    beginsWithDash word = true := by
  unfold Flag.ofWord? at spelled
  obtain ⟨spelling,found,-⟩ := Option.map_eq_some_iff.mp spelled
  have named : spelling.1 = word := by simpa using List.find?_some found
  have dashed : Flag.spellings.all (fun spelling => beginsWithDash spelling.1) = true := by decide
  rw [← named]
  exact List.all_eq_true.mp dashed spelling (List.mem_of_find?_eq_some found)

theorem scan_optionWords {options result : Options} {front : List String}
    (taken : OptionWords options front result) (rest : List String) :
    scan options (front ++ rest) = scan result rest := by
  induction taken with
  | nil => rfl
  | switch spelled behind ih =>
    rw [List.cons_append,scan]
    simp only [beginsWithDash_of_flag spelled,spelled,if_true,ih]
  | setting spelled given behind ih =>
    rw [List.cons_append,List.cons_append,scan]
    simp only [beginsWithDash_of_flag spelled,spelled,given,if_true,ih]

/-- Reading stops in front of a word that does not begin with a dash, and only there. -/
theorem exists_optionWords {options result : Options} {words rest : List String}
    (scanned : scan options words = .ok (.words result rest)) :
    ∃ front, words = front ++ rest ∧ OptionWords options front result ∧
      ∀ word, rest.head? = some word → beginsWithDash word = false := by
  fun_induction scan options words with
  | case1 options =>
    cases scanned
    exact ⟨[],rfl,.nil _,by simp⟩
  | case2 | case3 | case5 | case7 => cases scanned
  | case4 options word later _ switch spelled ih =>
    obtain ⟨front,rfl,taken,undashed⟩ := ih scanned
    exact ⟨word :: front,rfl,.switch spelled taken,undashed⟩
  | case6 options word _ setting spelled value later changed given ih =>
    obtain ⟨front,rfl,taken,undashed⟩ := ih scanned
    exact ⟨word :: value :: front,rfl,.setting spelled given taken,undashed⟩
  | case8 options word later undashed =>
    cases scanned
    exact ⟨[],rfl,.nil _,by simpa using undashed⟩

theorem scan_eq_words_iff {options result : Options} {words rest : List String} :
    scan options words = .ok (.words result rest) ↔
      ∃ front, words = front ++ rest ∧ OptionWords options front result ∧
        ∀ word, rest.head? = some word → beginsWithDash word = false := by
  constructor
  · exact exists_optionWords
  · rintro ⟨front,rfl,taken,undashed⟩
    rw [scan_optionWords taken]
    cases rest with
    | nil => rfl
    | cons word later =>
      rw [scan,if_neg]
      simpa using undashed word rfl

variable {isFile : FilePath → Bool} {catalog : Catalog}

theorem counts_of_readNames {words : List String} {invocation : Invocation}
    (read : readNames isFile catalog words = .ok invocation) :
    ∃ counts runs warmupRuns name extraArguments, words = counts ++ name :: extraArguments ∧
      Counts counts runs warmupRuns ∧
      (counts.length < 2 → isCount name = true → extraArguments = []) ∧
      named isFile catalog runs warmupRuns name extraArguments = invocation := by
  match words with
  | [] => cases read
  | [name] => exact ⟨[],1,1,name,[],rfl,.none,by simp,Except.ok.inj read⟩
  | [first,second] =>
    simp only [readNames] at read
    split at read
    · next digits =>
      obtain ⟨runs,value,named⟩ := exists_of_bind_eq_ok read
      exact ⟨[first],runs,0,second,[],rfl,.one digits value,by simp,Except.ok.inj named⟩
    · next other =>
      exact ⟨[],1,1,first,[second],rfl,.none,by simp [other],Except.ok.inj read⟩
  | first :: second :: third :: later =>
    simp only [readNames] at read
    split at read
    · next both =>
      obtain ⟨digits,digitsBehind⟩ := Bool.and_eq_true_iff.mp both
      obtain ⟨runs,value,behind⟩ := exists_of_bind_eq_ok read
      obtain ⟨warmupRuns,valueBehind,named⟩ := exists_of_bind_eq_ok behind
      exact ⟨[first,second],runs,warmupRuns,third,later,rfl,
        .two digits digitsBehind value valueBehind,by simp,Except.ok.inj named⟩
    · next notBoth =>
      split at read
      · next digits =>
        have other : ¬isCount second = true := fun digitsBehind =>
          notBoth (Bool.and_eq_true_iff.mpr ⟨digits,digitsBehind⟩)
        obtain ⟨runs,value,named⟩ := exists_of_bind_eq_ok read
        exact ⟨[first],runs,0,second,third :: later,rfl,.one digits value,by simp [other],
          Except.ok.inj named⟩
      · next other =>
        exact ⟨[],1,1,first,second :: third :: later,rfl,.none,by simp [other],Except.ok.inj read⟩

/-- Counts are read as long as another word is behind them, and the word behind them is the name. -/
theorem readNames_counted {counts : List String} {runs warmupRuns : UInt64}
    (counted : Counts counts runs warmupRuns) {name : String} {extraArguments : List String}
    (furthest : counts.length < 2 → isCount name = true → extraArguments = []) :
    readNames isFile catalog (counts ++ name :: extraArguments) =
      .ok (named isFile catalog runs warmupRuns name extraArguments) := by
  cases counted with
  | none =>
    cases extraArguments with
    | nil => rfl
    | cons second later =>
      have other : isCount name = false := by simpa using furthest
      cases later <;> simp [readNames,other]
  | one digits value =>
    cases extraArguments with
    | nil =>
      simp only [List.singleton_append,readNames,digits,if_true,value]
      rfl
    | cons third later =>
      have other : isCount name = false := by simpa using furthest
      simp only [List.singleton_append,readNames,digits,other,if_true,value]
      rfl
  | two digits digitsBehind value valueBehind =>
    simp only [List.cons_append,List.nil_append,readNames,digits,digitsBehind,value,valueBehind,
      Bool.and_self,if_true]
    rfl

theorem named_eq_run_iff {runs warmupRuns : UInt64} {name : String} {extraArguments : List String}
    {request : RunRequest} :
    named isFile catalog runs warmupRuns name extraArguments = .run request ↔
      ¬(FilePath.isCsv ⟨name⟩ = true ∧ isFile ⟨name⟩ = true) ∧
        request = { runs, warmupRuns, workload := name, catalog, extraArguments } := by
  simp only [named,Bool.and_eq_true]
  split
  · next file => exact iff_of_false (by simp) fun asked => asked.1 file
  · next other =>
    rw [Invocation.run.injEq,and_iff_right other]
    exact eq_comm

/-- Words that ask for a run. The counts go on as long as another word is behind them. A workload without
a count in front of it does not begin with a dash; one that stands behind a count may be any word. -/
structure RunWords (isFile : FilePath → Bool) (arguments : List String) (options : Options)
    (request : RunRequest) (front counts : List String) : Prop where
  shape : plainWords arguments = front ++ (counts ++ request.workload :: request.extraArguments)
  taken : OptionWords {} front options
  unsought : options.fragment = none
  counted : Counts counts request.runs request.warmupRuns
  undashed : counts = [] → beginsWithDash request.workload = false
  furthest : counts.length < 2 → isCount request.workload = true → request.extraArguments = []
  workload : ¬(FilePath.isCsv ⟨request.workload⟩ = true ∧ isFile ⟨request.workload⟩ = true)
  catalog : request.catalog = if catalogWord ∈ arguments.drop 1 then .sys else .con

theorem undashed_of_isCount {word : String} (digits : isCount word = true) :
    beginsWithDash word = false := by
  obtain ⟨-,each⟩ := Bool.and_eq_true_iff.mp digits
  refine Bool.eq_false_iff.mpr fun dashed => ?_
  have first : word.toList.head? = some '-' := of_decide_eq_true dashed
  have digit := List.all_eq_true.mp each '-' (List.mem_of_head? first)
  exact absurd digit (by decide)

theorem Counts.undashed {counts : List String} {runs warmupRuns : UInt64}
    (counted : Counts counts runs warmupRuns) : ∀ word ∈ counts, beginsWithDash word = false := by
  cases counted with
  | none => simp
  | one digits => simpa using undashed_of_isCount digits
  | two digits digitsBehind =>
    simpa using ⟨undashed_of_isCount digits,undashed_of_isCount digitsBehind⟩

variable {arguments : List String} {options : Options} {request : RunRequest}

theorem exists_runWords
    (read : read isFile arguments = .ok { invocation := .run request, options }) :
    ∃ front counts, RunWords isFile arguments options request front counts := by
  rw [read_eq_readPlain] at read
  unfold readPlain at read
  split at read
  · cases read
  · cases read
  · next chosen rest scanned =>
    obtain ⟨front,shape,taken,undashed⟩ := exists_optionWords scanned
    cases unsought : chosen.fragment with
    | some fragment => cases rest <;> simp [unsought] at read
    | none =>
      simp only [unsought] at read
      obtain ⟨invocation,named,same⟩ := exists_of_bind_eq_ok read
      cases same
      obtain ⟨counts,runs,warmupRuns,name,extraArguments,rfl,counted,furthest,asked⟩ :=
        counts_of_readNames named
      obtain ⟨workload,rfl⟩ := named_eq_run_iff.mp asked
      refine ⟨front,counts,shape,taken,unsought,counted,?_,furthest,workload,rfl⟩
      rintro rfl
      exact undashed name rfl

theorem RunWords.read_eq {front counts : List String}
    (words : RunWords isFile arguments options request front counts) :
    read isFile arguments = .ok { invocation := .run request, options } := by
  have head : ∀ word, (counts ++ request.workload :: request.extraArguments).head? = some word →
      beginsWithDash word = false := by
    intro word first
    cases counts with
    | nil => exact Option.some.inj first ▸ words.undashed rfl
    | cons count later =>
      exact Option.some.inj first ▸ words.counted.undashed count List.mem_cons_self
  have scanned : scan {} (plainWords arguments) = _ :=
    scan_eq_words_iff.mpr ⟨front,words.shape,words.taken,head⟩
  have asked : named isFile (if catalogWord ∈ arguments.drop 1 then .sys else .con) request.runs
      request.warmupRuns request.workload request.extraArguments = .run request :=
    named_eq_run_iff.mpr ⟨words.workload,words.catalog ▸ rfl⟩
  rw [read_eq_readPlain,readPlain,scanned]
  simp only [words.unsought,readNames_counted words.counted words.furthest,asked]
  rfl

theorem read_unknownFlag {front later : List String} {word : String}
    (shape : plainWords arguments = front ++ word :: later) (taken : OptionWords {} front options)
    (dashed : beginsWithDash word = true) (unknown : Flag.ofWord? word = none) :
    read isFile arguments = .error (.unknownFlag word) := by
  have scanned : scan {} (plainWords arguments) = .error (.unknownFlag word) := by
    rw [shape,scan_optionWords taken,scan]
    simp only [dashed,unknown,if_true]
  rw [read_eq_readPlain,readPlain,scanned]

/-- A run is read from options with their values, then counts, then a workload and the words for the
benchmarker. So a word that begins with a dash in front of the workload is an option or the value of
one, and where an option may stand any other such word is refused. But a workload is only known not to
begin with a dash if no count stands in front of it: the word behind the counts is never an option. -/
theorem read_leadingWords (isFile : FilePath → Bool) (arguments : List String) :
    (∀ request options, read isFile arguments = .ok { invocation := .run request, options } ↔
      ∃ front counts, RunWords isFile arguments options request front counts) ∧
    (∀ counts runs warmupRuns, Counts counts runs warmupRuns →
      ∀ word ∈ counts, beginsWithDash word = false) ∧
    ∀ front word later options, plainWords arguments = front ++ word :: later →
      OptionWords {} front options → beginsWithDash word = true → Flag.ofWord? word = none →
      read isFile arguments = .error (.unknownFlag word) := by
  refine ⟨?_,?_,?_⟩
  · intro request options
    constructor
    · exact exists_runWords
    · rintro ⟨front,counts,words⟩
      exact words.read_eq
  · intro counts runs warmupRuns counted
    exact counted.undashed
  · intro front word later options shape taken dashed unknown
    exact read_unknownFlag shape taken dashed unknown

/-- A word that is refused in front of a count and run behind it. -/
theorem read_leadingWords_bogus :
    let request : RunRequest :=
      { runs := 5, warmupRuns := 0, workload := "--bogus", extraArguments := ["gol"] }
    let before := ["gcbench","--root","-x","--bogus","5","gol"]
    let behind := ["gcbench","--root","-x","5","--bogus","gol"]
    let options : Options := { root := some ⟨"-x"⟩ }
    plainWords before = ["--root","-x"] ++ "--bogus" :: ["5","gol"] ∧
      OptionWords {} ["--root","-x"] options ∧ Flag.ofWord? "--bogus" = none ∧
      read (fun _ => false) before = .error (.unknownFlag "--bogus") ∧
      Counts ["5"] 5 0 ∧ beginsWithDash "5" = false ∧
      RunWords (fun _ => false) behind options request ["--root","-x"] ["5"] ∧
      read (fun _ => false) behind = .ok { invocation := .run request, options } := by
  intro request before behind options
  have spelled : Flag.ofWord? "--root" = some (.setting .root) := rfl
  have taken : OptionWords {} ["--root","-x"] options := .setting spelled rfl (.nil _)
  have counted : Counts ["5"] 5 0 := .one rfl rfl
  have unknown : Flag.ofWord? "--bogus" = none := rfl
  have words : RunWords (fun _ => false) behind options request ["--root","-x"] ["5"] :=
    ⟨rfl,taken,rfl,counted,by simp,by decide,by decide,rfl⟩
  obtain ⟨asks,undashed,-⟩ := read_leadingWords (fun _ => false) behind
  obtain ⟨-,-,refuses⟩ := read_leadingWords (fun _ => false) before
  exact ⟨rfl,taken,unknown,refuses _ _ ["5","gol"] options rfl taken rfl unknown,counted,
    undashed _ _ _ counted "5" List.mem_cons_self,words,(asks _ _).mpr ⟨_,_,words⟩⟩

/-- A word that begins with a dash is run as a workload if a count stands in front of it. -/
theorem not_undashed_workload :
    ¬∀ isFile arguments request options,
      read isFile arguments = .ok { invocation := .run request, options } →
      beginsWithDash request.workload = false := by
  intro undashed
  let request : RunRequest :=
    { runs := 5, warmupRuns := 0, workload := "--bogus", extraArguments := ["gol"] }
  have run : read (fun _ => false) ["gcbench","5","--bogus","gol"] =
      .ok { invocation := .run request, options := {} } := rfl
  exact absurd (undashed _ _ _ _ run) (by decide)

end CommandLine
end CollectorBench
