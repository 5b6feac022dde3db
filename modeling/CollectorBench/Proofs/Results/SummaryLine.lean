import CollectorBench.Proofs.Results.DataLine

/-! What a summary line says of each key.
The keys are settled apart from each other: a key takes the last text that is given for it, and what is
given for other keys, or for none, does not matter. Only which of several bad texts is told depends on
the order of all segments. -/
namespace CollectorBench
open Text Number

/-- A segment that gives a text for a key: the name of the key, the first equals sign, and the text, both
between blanks. -/
inductive Gives : List Char → SummaryKey → List Char → Prop
  | mk {before behind : List Char} {key : SummaryKey} (first : '=' ∉ before)
    (named : trim before = key.name.toList) : Gives (before ++ '=' :: behind) key (trim behind)

def HasKey (segment : List Char) (key : SummaryKey) : Prop :=
  ∃ text, Gives segment key text

namespace SummaryKey

def Admits : SummaryKey → List Char → Prop
  | .p50, text => IsInteger text
  | .p99, text => IsInteger text
  | .jitter, text => IsDouble text

theorem ofText?_eq_some_iff {text : List Char} {key : SummaryKey} :
    ofText? text = some key ↔ text = key.name.toList := by
  constructor
  · intro found
    have same : decide (key.name.toList = text) = true := by simpa using List.find?_some found
    exact (of_decide_eq_true same).symm
  · rintro rfl
    cases key <;> rfl

end SummaryKey

/-- A segment with a text that its key cannot take. -/
def Faulty (segment : List Char) : Prop :=
  ∃ key text, Gives segment key text ∧ ¬key.Admits text

/-- The text that counts for a key: that of the last segment with the key. -/
inductive Settled (key : SummaryKey) : List (List Char) → Option (List Char) → Prop
  | unset {segments : List (List Char)} (silent : ∀ segment ∈ segments, ¬HasKey segment key) :
    Settled key segments none
  | last {front later : List (List Char)} {segment text : List Char} (given : Gives segment key text)
    (silent : ∀ other ∈ later, ¬HasKey other key) :
    Settled key (front ++ segment :: later) (some text)

namespace Summary

def IntegerOf : Option (List Char) → Int64 → Prop
  | none, word => word = 0
  | some text, word => IntegerText text word.toInt

def FractionOf : Option (List Char) → Float → Prop
  | none, value => value = 0.0
  | some text, value => readFloat text = some value

/-- A summary has the number of a text under a key. -/
def Holds (summary : Summary) (key : SummaryKey) (text? : Option (List Char)) : Prop :=
  match key with
  | .p50 => IntegerOf text? summary.p50
  | .p99 => IntegerOf text? summary.p99
  | .jitter => FractionOf text? summary.jitter

theorem IntegerOf.unique {text? : Option (List Char)} {first second : Int64}
    (one : IntegerOf text? first) (other : IntegerOf text? second) : first = second := by
  cases text? with
  | none => exact Eq.trans one (Eq.symm other)
  | some text => exact Int64.toInt_inj.mp (IntegerText.unique one other)

theorem FractionOf.unique {text? : Option (List Char)} {first second : Float}
    (one : FractionOf text? first) (other : FractionOf text? second) : first = second := by
  cases text? with
  | none => exact Eq.trans one (Eq.symm other)
  | some text => exact Option.some.inj (Eq.trans (Eq.symm one) other)

theorem setting?_eq_some_iff {segment text : List Char} {key : SummaryKey} :
    setting? segment = some (key,text) ↔ Gives segment key text := by
  constructor
  · intro given
    unfold setting? at given
    obtain ⟨⟨before,behind⟩,cut,named⟩ := Option.bind_eq_some_iff.mp given
    obtain ⟨found,known,same⟩ := Option.bind_eq_some_iff.mp named
    cases same
    obtain ⟨first,rfl⟩ := cutFirst_eq_some_iff.mp cut
    exact .mk first (SummaryKey.ofText?_eq_some_iff.mp known)
  · rintro ⟨first,named⟩
    rw [setting?,cutFirst_append first]
    simp [SummaryKey.ofText?_eq_some_iff.mpr named]

theorem readFraction_eq_ok_iff {field : String} {text : List Char} {value : Float} :
    readFraction field text = .ok value ↔ readFloat text = some value := by
  rw [readFraction]
  cases readFloat text <;> simp

theorem readFraction_eq_error_iff {field : String} {text : List Char} {bad : BadValue} :
    readFraction field text = .error bad ↔
      ¬IsDouble text ∧ bad = { field, value := String.ofList text } := by
  rw [← readFloat_isSome_iff,readFraction]
  cases readFloat text <;> simp [eq_comm]

theorem set_eq_error_iff {summary : Summary} {key : SummaryKey} {text : List Char} {bad : BadValue} :
    summary.set key text = .error bad ↔
      ¬key.Admits text ∧ bad = { field := key.name, value := String.ofList text } := by
  cases key with
  | p50 | p99 =>
    rw [SummaryKey.Admits,← readInteger_eq_error_iff,set]
    cases readInteger _ text <;> simp [bind,Except.bind]
  | jitter =>
    rw [SummaryKey.Admits,← readFraction_eq_error_iff,set]
    cases readFraction _ text <;> simp [bind,Except.bind]

/-- Setting a key gives it the number of a text and leaves the other keys as they are. -/
theorem holds_of_set {summary changed : Summary} {key : SummaryKey} {text : List Char}
    (given : summary.set key text = .ok changed) :
    changed.Holds key (some text) ∧
      ∀ other ≠ key, ∀ text?, summary.Holds other text? → changed.Holds other text? := by
  cases key with
  | p50 | p99 =>
    obtain ⟨word,read,same⟩ := exists_of_bind_eq_ok given
    cases same
    refine ⟨readInteger_eq_ok_iff.mp read,?_⟩
    intro other differs text? held
    cases other <;> first | exact absurd rfl differs | exact held
  | jitter =>
    obtain ⟨value,read,same⟩ := exists_of_bind_eq_ok given
    cases same
    refine ⟨readFraction_eq_ok_iff.mp read,?_⟩
    intro other differs text? held
    cases other <;> first | exact absurd rfl differs | exact held

theorem eq_of_holds {first second : Summary} {texts : SummaryKey → Option (List Char)}
    (one : ∀ key, first.Holds key (texts key)) (other : ∀ key, second.Holds key (texts key)) :
    first = second := by
  have p50 : first.p50 = second.p50 := (one .p50).unique (other .p50)
  have p99 : first.p99 = second.p99 := (one .p99).unique (other .p99)
  have jitter : first.jitter = second.jitter := (one .jitter).unique (other .jitter)
  cases first
  cases second
  cases p50
  cases p99
  cases jitter
  rfl

theorem holds_zero (key : SummaryKey) : ({} : Summary).Holds key none := by
  cases key <;> rfl

def textFor? (key : SummaryKey) (segment : List Char) : Option (List Char) :=
  (setting? segment).bind fun setting => if setting.1 = key then some setting.2 else none

/-- The texts that segments give for a key, in their order. -/
def texts (key : SummaryKey) (segments : List (List Char)) : List (List Char) :=
  segments.filterMap (textFor? key)

theorem textFor?_eq_some_iff {key : SummaryKey} {segment text : List Char} :
    textFor? key segment = some text ↔ Gives segment key text := by
  rw [← setting?_eq_some_iff,textFor?]
  cases setting? segment with
  | none => simp
  | some setting =>
    obtain ⟨found,value⟩ := setting
    simp

theorem textFor?_eq_none_iff {key : SummaryKey} {segment : List Char} :
    textFor? key segment = none ↔ ¬HasKey segment key := by
  rw [Option.eq_none_iff_forall_ne_some,HasKey,not_exists]
  exact forall_congr' fun text => not_congr textFor?_eq_some_iff

theorem settled_iff {key : SummaryKey} {segments : List (List Char)} {text? : Option (List Char)} :
    Settled key segments text? ↔ (texts key segments).getLast? = text? := by
  have last : (texts key segments).getLast? = segments.reverse.findSome? (textFor? key) := by
    rw [texts,List.getLast?_eq_head?_reverse,← List.filterMap_reverse,List.head?_filterMap]
  rw [last]
  constructor
  · intro settled
    cases settled with
    | unset silent =>
      rw [List.findSome?_eq_none_iff]
      exact fun segment member => textFor?_eq_none_iff.mpr (silent segment (List.mem_reverse.mp member))
    | @last front later segment text given silent =>
      rw [List.findSome?_eq_some_iff]
      refine ⟨later.reverse,segment,front.reverse,by simp,textFor?_eq_some_iff.mpr given,?_⟩
      exact fun other member => textFor?_eq_none_iff.mpr (silent other (List.mem_reverse.mp member))
  · intro found
    cases text? with
    | none =>
      rw [List.findSome?_eq_none_iff] at found
      exact .unset fun segment member =>
        textFor?_eq_none_iff.mp (found segment (List.mem_reverse.mpr member))
    | some text =>
      obtain ⟨later,segment,front,shape,given,silent⟩ := List.findSome?_eq_some_iff.mp found
      have whole : segments = front.reverse ++ segment :: later.reverse := by
        rw [← List.reverse_reverse segments,shape]
        simp
      rw [whole]
      exact .last (textFor?_eq_some_iff.mp given) fun other member =>
        textFor?_eq_none_iff.mp (silent other (List.mem_reverse.mp member))

theorem texts_cons (key : SummaryKey) (segment : List Char) (later : List (List Char)) :
    texts key (segment :: later) = (textFor? key segment).toList ++ texts key later := by
  rw [texts]
  cases given : textFor? key segment with
  | none =>
    rw [List.filterMap_cons_none given]
    rfl
  | some text =>
    rw [List.filterMap_cons_some given]
    rfl

section Segments
variable {start result : Summary} {segments : List (List Char)}

/-- The last text for a key counts, and what the key had before if there is none. -/
theorem holds_of_setAll (given : start.setAll (segments.filterMap setting?) = .ok result)
    {key : SummaryKey} {before : Option (List Char)} (held : start.Holds key before) :
    result.Holds key ((texts key segments).getLast?.or before) := by
  induction segments generalizing start before with
  | nil =>
    cases given
    exact held
  | cons segment later ih =>
    rw [texts_cons,textFor?]
    cases setting : setting? segment with
    | none =>
      rw [List.filterMap_cons_none setting] at given
      exact ih given held
    | some found =>
      rw [List.filterMap_cons_some setting] at given
      obtain ⟨changed,set,rest⟩ := exists_of_bind_eq_ok given
      obtain ⟨own,others⟩ := holds_of_set set
      rw [Option.bind_some]
      split
      · next same =>
        rw [List.getLast?_append,Option.or_assoc]
        exact ih rest (same ▸ own)
      · next differs => exact ih rest (others key (Ne.symm differs) before held)

theorem Gives.unique {segment text other : List Char} {key also : SummaryKey}
    (one : Gives segment key text) (two : Gives segment also other) : key = also ∧ text = other := by
  have same := (setting?_eq_some_iff.mpr one).symm.trans (setting?_eq_some_iff.mpr two)
  exact Prod.mk.inj (Option.some.inj same)

theorem faulty_iff {segment text : List Char} {key : SummaryKey} (given : Gives segment key text) :
    Faulty segment ↔ ¬key.Admits text := by
  constructor
  · rintro ⟨also,other,two,wrong⟩
    obtain ⟨rfl,rfl⟩ := Gives.unique given two
    exact wrong
  · intro wrong
    exact ⟨key,text,given,wrong⟩

theorem not_faulty_of_silent {segment : List Char} (silent : setting? segment = none) :
    ¬Faulty segment := by
  rintro ⟨key,text,given,-⟩
  cases silent.symm.trans (setting?_eq_some_iff.mpr given)

/-- The first segment with a bad text ends the reading, whatever is given for its key later. -/
theorem setAll_eq_error_iff {bad : BadValue} :
    start.setAll (segments.filterMap setting?) = .error bad ↔
      ∃ segment key text, Leftmost Faulty segments segment ∧ Gives segment key text ∧
        bad = { field := key.name, value := String.ofList text } := by
  induction segments generalizing start with
  | nil => simp [setAll,not_leftmost_nil]
  | cons segment later ih =>
    cases setting : setting? segment with
    | none =>
      simp only [List.filterMap_cons_none setting,ih,
        leftmost_cons_of_not (not_faulty_of_silent setting)]
    | some found =>
      obtain ⟨key,text⟩ := found
      have given := setting?_eq_some_iff.mp setting
      rw [List.filterMap_cons_some setting,setAll]
      cases set : start.set key text with
      | error wrong =>
        obtain ⟨refused,rfl⟩ := set_eq_error_iff.mp set
        have faulty := (faulty_iff given).mpr refused
        constructor
        · rintro ⟨⟩
          exact ⟨segment,key,text,(leftmost_cons_of_holds faulty).mpr rfl,given,rfl⟩
        · rintro ⟨first,also,other,leftmost,two,rfl⟩
          obtain rfl := (leftmost_cons_of_holds faulty).mp leftmost
          obtain ⟨rfl,rfl⟩ := Gives.unique given two
          rfl
      | ok changed =>
        have sound : ¬Faulty segment := by
          intro faulty
          have refused := (faulty_iff given).mp faulty
          cases set.symm.trans (set_eq_error_iff.mpr ⟨refused,rfl⟩)
        simp only [leftmost_cons_of_not sound]
        exact ih

theorem setAll_fails_iff :
    (∃ bad, start.setAll (segments.filterMap setting?) = .error bad) ↔
      ∃ segment ∈ segments, Faulty segment := by
  rw [← exists_leftmost_iff]
  constructor
  · rintro ⟨bad,wrong⟩
    obtain ⟨segment,_,_,first,_,_⟩ := setAll_eq_error_iff.mp wrong
    exact ⟨segment,first⟩
  · rintro ⟨segment,first⟩
    obtain ⟨_,_,_,⟨key,text,given,_⟩,_⟩ := id first
    exact ⟨_,setAll_eq_error_iff.mpr ⟨segment,key,text,first,given,rfl⟩⟩

theorem setAll_eq_ok_iff :
    setAll {} (segments.filterMap setting?) = .ok result ↔
      (∀ segment ∈ segments, ¬Faulty segment) ∧
        ∀ key, result.Holds key (texts key segments).getLast? := by
  have holds {summary : Summary} (read : setAll {} (segments.filterMap setting?) = .ok summary)
      (key : SummaryKey) : summary.Holds key (texts key segments).getLast? := by
    simpa using holds_of_setAll read (holds_zero key)
  constructor
  · intro read
    refine ⟨?_,holds read⟩
    intro segment member faulty
    obtain ⟨bad,wrong⟩ := setAll_fails_iff.mpr ⟨segment,member,faulty⟩
    cases read.symm.trans wrong
  · rintro ⟨sound,each⟩
    cases read : setAll {} (segments.filterMap setting?) with
    | error bad =>
      obtain ⟨segment,member,faulty⟩ := setAll_fails_iff.mp ⟨bad,read⟩
      exact absurd faulty (sound segment member)
    | ok summary => rw [eq_of_holds (holds read) each]

end Segments

theorem setAll_congr {segments others : List (List Char)} {summary : Summary} (among : others ⊆ segments)
    (same : ∀ key, (texts key others).getLast? = (texts key segments).getLast?)
    (read : setAll {} (segments.filterMap setting?) = .ok summary) :
    setAll {} (others.filterMap setting?) = .ok summary := by
  obtain ⟨sound,each⟩ := setAll_eq_ok_iff.mp read
  apply setAll_eq_ok_iff.mpr
  refine ⟨fun segment member => sound segment (among member),?_⟩
  intro key
  rw [same]
  exact each key

theorem texts_append (key : SummaryKey) (front back : List (List Char)) :
    texts key (front ++ back) = texts key front ++ texts key back :=
  List.filterMap_append

theorem texts_eq_nil_iff {key : SummaryKey} {segments : List (List Char)} :
    texts key segments = [] ↔ ∀ segment ∈ segments, ¬HasKey segment key := by
  rw [texts,List.filterMap_eq_nil_iff]
  exact forall₂_congr fun _ _ => textFor?_eq_none_iff

/-- Two segments with different keys can change places if a key of theirs that is given between them is
given behind them too. -/
theorem last_texts_swap {key : SummaryKey} {first second : List Char} {between back : List (List Char)}
    (apart : HasKey first key → ¬HasKey second key)
    (covered : HasKey first key ∨ HasKey second key →
      (∃ segment ∈ between, HasKey segment key) → ∃ segment ∈ back, HasKey segment key)
    (front : List (List Char)) :
    (texts key (front ++ second :: (between ++ first :: back))).getLast? =
      (texts key (front ++ first :: (between ++ second :: back))).getLast? := by
  have spread (one other : List Char) : texts key (front ++ one :: (between ++ other :: back)) =
      texts key front ++ ((textFor? key one).toList ++
        (texts key between ++ ((textFor? key other).toList ++ texts key back))) := by
    rw [texts_append,texts_cons,texts_append,texts_cons]
  rw [spread,spread]
  by_cases later : texts key back = []
  · have unseen : ¬∃ segment ∈ back, HasKey segment key := by
      simpa using texts_eq_nil_iff.mp later
    have clear (either : HasKey first key ∨ HasKey second key) : texts key between = [] := by
      apply texts_eq_nil_iff.mpr
      intro segment member has
      exact unseen (covered either ⟨segment,member,has⟩)
    by_cases one : HasKey first key
    · rw [textFor?_eq_none_iff.mpr (apart one),clear (.inl one)]
      simp
    · rw [textFor?_eq_none_iff.mpr one]
      by_cases two : HasKey second key
      · rw [clear (.inr two)]
        simp
      · rw [textFor?_eq_none_iff.mpr two]
  · simp [List.getLast?_append,List.getLast?_eq_some_getLast later]

theorem filterMap_setting?_of_silent {idle : List (List Char)}
    (silent : ∀ segment ∈ idle, ∀ key, ¬HasKey segment key) (front back : List (List Char)) :
    (front ++ idle ++ back).filterMap setting? = (front ++ back).filterMap setting? := by
  have none : idle.filterMap setting? = [] := by
    rw [List.filterMap_eq_nil_iff]
    intro segment member
    apply Option.eq_none_iff_forall_ne_some.mpr
    rintro ⟨key,text⟩ given
    exact silent segment member key ⟨text,setting?_eq_some_iff.mp given⟩
  rw [List.filterMap_append,List.filterMap_append,none,List.append_nil,List.filterMap_append]

theorem read_eq_setAll {body : List Char} {segments : List (List Char)}
    (divided : Divided ',' body segments) : read body = setAll {} (segments.filterMap setting?) := by
  obtain rfl := divided_iff.mp divided
  rfl

/-- What the body of a summary line says. -/
inductive Reads (name : String) (number : Nat) (body : List Char) : Except Failure Summary → Prop
  | settled {segments : List (List Char)} {summary : Summary} (divided : Divided ',' body segments)
    (sound : ∀ segment ∈ segments, ¬Faulty segment)
    (each : ∀ key, ∃ text?, Settled key segments text? ∧ summary.Holds key text?) :
    Reads name number body (.ok summary)
  | malformed {segments : List (List Char)} {segment text : List Char} {key : SummaryKey}
    (divided : Divided ',' body segments) (first : Leftmost Faulty segments segment)
    (given : Gives segment key text) :
    Reads name number body (.error (.malformedValue name number key.name (String.ofList text)))

theorem reads_iff {name : String} {number : Nat} {body : List Char} {result : Except Failure Summary} :
    toldAt name number (read body) = result ↔ Reads name number body result := by
  constructor
  · rintro rfl
    have divided : Divided ',' body (fields ',' body) := divided_iff.mpr rfl
    rw [read_eq_setAll divided]
    cases all : setAll {} ((fields ',' body).filterMap setting?) with
    | ok summary =>
      obtain ⟨sound,each⟩ := setAll_eq_ok_iff.mp all
      exact .settled divided sound fun key => ⟨_,settled_iff.mpr rfl,each key⟩
    | error bad =>
      obtain ⟨segment,key,text,first,given,rfl⟩ := setAll_eq_error_iff.mp all
      exact .malformed divided first given
  · intro reads
    cases reads with
    | settled divided sound each =>
      rw [read_eq_setAll divided]
      apply toldAt_eq_ok_iff.mpr
      refine setAll_eq_ok_iff.mpr ⟨sound,?_⟩
      intro key
      obtain ⟨text?,settled,holds⟩ := each key
      rw [settled_iff.mp settled]
      exact holds
    | malformed divided first given =>
      rw [read_eq_setAll divided]
      exact toldAt_eq_error_iff.mpr ⟨_,setAll_eq_error_iff.mpr ⟨_,_,_,first,given,rfl⟩,rfl⟩

theorem read_fails_iff {name : String} {number : Nat} {body : List Char} {segments : List (List Char)}
    (divided : Divided ',' body segments) :
    (∃ failure, toldAt name number (read body) = .error failure) ↔
      ∃ segment ∈ segments, Faulty segment := by
  rw [← @setAll_fails_iff {} segments,← read_eq_setAll divided]
  constructor
  · rintro ⟨failure,told⟩
    obtain ⟨bad,wrong,-⟩ := toldAt_eq_error_iff.mp told
    exact ⟨bad,wrong⟩
  · rintro ⟨bad,wrong⟩
    exact ⟨_,toldAt_eq_error_iff.mpr ⟨bad,wrong,rfl⟩⟩

/-- The keys of a summary line are read apart from each other.
Reading fails exactly if a segment has a text that its key cannot take, and tells the leftmost of them.
Otherwise each key has the number of the last text that is given for it, or zero.
So two segments with different keys can change places, if a key of theirs that is given between them is
given behind both as well, and segments without a key can be put in anywhere. -/
theorem read_summary (name : String) (number : Nat) :
    (∀ body result, toldAt name number (read body) = result ↔ Reads name number body result) ∧
    (∀ body segments, Divided ',' body segments →
      ((∃ failure, toldAt name number (read body) = .error failure) ↔
        ∃ segment ∈ segments, Faulty segment)) ∧
    (∀ body swapped summary first second front between back,
      Divided ',' body (front ++ first :: (between ++ second :: back)) →
      Divided ',' swapped (front ++ second :: (between ++ first :: back)) →
      (∀ key, HasKey first key → ¬HasKey second key) →
      (∀ key, HasKey first key ∨ HasKey second key →
        (∃ segment ∈ between, HasKey segment key) → ∃ segment ∈ back, HasKey segment key) →
      toldAt name number (read body) = .ok summary → toldAt name number (read swapped) = .ok summary) ∧
    (∀ body longer front idle back,
      Divided ',' body (front ++ back) → Divided ',' longer (front ++ idle ++ back) →
      (∀ segment ∈ idle, ∀ key, ¬HasKey segment key) →
      toldAt name number (read longer) = toldAt name number (read body)) := by
  refine ⟨fun _ _ => reads_iff,fun _ _ => read_fails_iff,?_,?_⟩
  · intro body swapped summary first second front between back divided exchanged apart covered told
    have all := toldAt_eq_ok_iff.mp told
    rw [read_eq_setAll divided] at all
    rw [read_eq_setAll exchanged]
    apply toldAt_eq_ok_iff.mpr
    apply setAll_congr ?_ ?_ all
    · intro segment member
      simp only [List.mem_append,List.mem_cons] at member ⊢
      tauto
    · intro key
      exact last_texts_swap (apart key) (covered key) front
  · intro body longer front idle back divided lengthened silent
    rw [read_eq_setAll divided,read_eq_setAll lengthened,filterMap_setting?_of_silent silent]

theorem read_summary_swapped :
    (∃ failure, toldAt "s.csv" 1 (read "p50_ns=x,p50_ns=1".toList) = .error failure) ∧
    toldAt "s.csv" 1 (read "p99_ns=3,p50_ns=2,p50_ns=1,p50_ns=4".toList) = .ok { p50 := 4, p99 := 3 } ∧
    toldAt "s.csv" 1 (read "p50_ns=1,p90_ns=2,jitter,p99_ns=3".toList) =
      toldAt "s.csv" 1 (read "p50_ns=1,p99_ns=3".toList) := by
  obtain ⟨-,fails,swaps,skips⟩ := read_summary "s.csv" 1
  refine ⟨?_,?_,?_⟩
  · apply (fails _ ["p50_ns=x".toList,"p50_ns=1".toList] (divided_iff.mpr rfl)).mpr
    refine ⟨"p50_ns=x".toList,List.mem_cons_self,.p50,"x".toList,textFor?_eq_some_iff.mp rfl,?_⟩
    exact readInt64_eq_none_iff.mp rfl
  · apply swaps "p50_ns=1,p50_ns=2,p99_ns=3,p50_ns=4".toList _ _ "p50_ns=1".toList "p99_ns=3".toList []
      ["p50_ns=2".toList] ["p50_ns=4".toList] (divided_iff.mpr rfl) (divided_iff.mpr rfl)
    · intro key first
      cases key with
      | p50 => exact textFor?_eq_none_iff.mp rfl
      | p99 | jitter => exact absurd first (textFor?_eq_none_iff.mp rfl)
    · rintro key - ⟨segment,member,has⟩
      obtain rfl := List.mem_singleton.mp member
      cases key with
      | p50 => exact ⟨_,List.mem_cons_self,"4".toList,textFor?_eq_some_iff.mp rfl⟩
      | p99 | jitter => exact absurd has (textFor?_eq_none_iff.mp rfl)
    · rfl
  · apply skips _ _ ["p50_ns=1".toList] ["p90_ns=2".toList,"jitter".toList] ["p99_ns=3".toList]
      (divided_iff.mpr rfl) (divided_iff.mpr rfl)
    intro segment member key
    apply textFor?_eq_none_iff.mp
    rcases List.mem_pair.mp member with rfl | rfl <;> cases key <;> rfl

/-- Two segments with different keys cannot change places over a third one with the key of the first. -/
theorem not_read_exchanged :
    Divided ',' "p50_ns=1,p50_ns=2,p99_ns=3".toList
      ["p50_ns=1".toList,"p50_ns=2".toList,"p99_ns=3".toList] ∧
    Divided ',' "p99_ns=3,p50_ns=2,p50_ns=1".toList
      ["p99_ns=3".toList,"p50_ns=2".toList,"p50_ns=1".toList] ∧
    HasKey "p50_ns=1".toList .p50 ∧ HasKey "p99_ns=3".toList .p99 ∧
    read "p50_ns=1,p50_ns=2,p99_ns=3".toList = .ok { p50 := 2, p99 := 3 } ∧
    read "p99_ns=3,p50_ns=2,p50_ns=1".toList = .ok { p50 := 1, p99 := 3 } ∧
    read "p50_ns=1,p50_ns=2,p99_ns=3".toList ≠ read "p99_ns=3,p50_ns=2,p50_ns=1".toList := by
  refine ⟨divided_iff.mpr rfl,divided_iff.mpr rfl,⟨"1".toList,textFor?_eq_some_iff.mp rfl⟩,
    ⟨"3".toList,textFor?_eq_some_iff.mp rfl⟩,rfl,rfl,?_⟩
  intro same
  have p50 : (2 : Int64) = 1 := congrArg Summary.p50 (Except.ok.inj same)
  exact absurd p50 (by decide)

end Summary
end CollectorBench
