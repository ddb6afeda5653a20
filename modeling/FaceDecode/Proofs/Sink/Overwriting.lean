import FaceDecode.Proofs.Sink.Records
import FaceDecode.Proofs.Storage.Growth

namespace FaceDecode

/-- Whether two times differ in the fraction of a second at most. -/
structure UtcTime.SameSecond (t t' : UtcTime) : Prop where
  year : t.year = t'.year
  month : t.month = t'.month
  day : t.day = t'.day
  hour : t.hour = t'.hour
  minute : t.minute = t'.minute
  second : t.second = t'.second

theorem UtcTime.twoDigits_inj {n m : Nat} (hn : n < 100) (hm : m < 100) :
    twoDigits n = twoDigits m ↔ n = m := by
  rw [twoDigits, twoDigits, String.ofList_inj]
  exact Digits.padded_inj (by decide) (by decide) hn hm

namespace Path

theorem isPlain_of_notMem {name : String} (nonempty : name.toList ≠ []) (slash : '/' ∉ name.toList)
    (dot : '.' ∉ name.toList) : IsPlain name := by
  refine ⟨slash, ?_, ?_⟩
  · rw [isVoid, Bool.or_eq_false_iff, beq_eq_false_iff_ne, beq_eq_false_iff_ne]
    constructor
    · rintro rfl
      exact nonempty rfl
    · rintro rfl
      exact dot (by decide)
  · rintro rfl
    exact dot (by decide)

theorem isPlain_toString (n : Int) : IsPlain (toString n) := by
  have digits {m : Nat} {c : Char} (h : c ∈ (Nat.repr m).toList) : c.isDigit = true :=
    Nat.isDigit_of_mem_toDigits (by decide) (by decide) (Nat.toList_repr ▸ h)
  have chars {c : Char} (h : c ∈ (Int.repr n).toList) : c.isDigit = true ∨ c = '-' := by
    cases n with
    | ofNat m => exact .inl (digits h)
    | negSucc m =>
      rw [Int.repr, String.toList_append, List.mem_append] at h
      exact h.elim (fun sign ↦ .inr (List.mem_singleton.1 sign)) fun h ↦ .inl (digits h)
  refine isPlain_of_notMem ?_ ?_ ?_
  · have some_digit (m : Nat) : (Nat.repr m).toList ≠ [] := by
      rw [Nat.toList_repr]
      exact Nat.toDigits_ne_nil
    cases n with
    | ofNat m => exact some_digit m
    | negSucc m =>
      change ("-" ++ Nat.repr (m + 1)).toList ≠ []
      simp
  · intro h
    exact absurd (chars h) (by decide)
  · intro h
    exact absurd (chars h) (by decide)

theorem isPlain_twoDigits (n : Nat) : IsPlain (UtcTime.twoDigits n) := by
  have chars {c : Char} (h : c ∈ (UtcTime.twoDigits n).toList) : c ∈ "0123456789ABCDEF".toList :=
    Digits.mem_padded (by decide) (by decide) 2 n c (String.toList_ofList ▸ h)
  refine isPlain_of_notMem ?_ ?_ ?_
  · rw [UtcTime.twoDigits, String.toList_ofList, ← List.length_pos_iff, Digits.length_padded]
    decide
  · intro h
    exact absurd (chars h) (by decide)
  · intro h
    exact absurd (chars h) (by decide)

end Path

namespace RecordFolder

variable {s : RecordFolder} {t t' : UtcTime} {a b : UInt16} {r : Report} {session : Session}

theorem length_fileName (t : UtcTime) (number : UInt16) : (fileName t number).toList.length = 18 := by
  rw [fileName_toList]
  simp [Digits.length_padded]

theorem isPlain_fileName (t : UtcTime) (number : UInt16) : Path.IsPlain (fileName t number) := by
  refine ⟨slash_notMem_fileName t number, isVoid_fileName t number, fun up ↦ ?_⟩
  have long := length_fileName t number
  rw [up] at long
  exact absurd long (by decide)

theorem fileName_inj : fileName t a = fileName t' b ↔
    (t.hour = t'.hour ∧ t.minute = t'.minute ∧ t.second = t'.second) ∧ a = b := by
  have value {n m : Nat} (hn : n < 100) (hm : m < 100)
      (same : Digits.padded 10 2 n = Digits.padded 10 2 m) : n = m :=
    (Digits.padded_inj (by decide) (by decide) hn hm).1 same
  constructor
  · intro same
    have chars := congrArg String.toList same
    rw [fileName_toList, fileName_toList, List.append_left_inj] at chars
    obtain ⟨chars, number⟩ := List.append_inj chars (by simp [Digits.length_padded])
    obtain ⟨chars, second⟩ := List.append_inj chars (by simp [Digits.length_padded])
    obtain ⟨hour, minute⟩ := List.append_inj chars (by simp [Digits.length_padded])
    have hours := t.hour_lt
    have hours' := t'.hour_lt
    have minutes := t.minute_lt
    have minutes' := t'.minute_lt
    have seconds := t.second_lt
    have seconds' := t'.second_lt
    refine ⟨⟨value (by omega) (by omega) hour, ?_, ?_⟩, ?_⟩
    · exact value (by omega) (by omega) (List.cons.inj minute).2
    · exact value (by omega) (by omega) (List.cons.inj second).2
    · have short (n : UInt16) : n.toNat < 16 ^ 4 := by
        have bound := n.toNat_lt
        omega
      have numbers := (Digits.padded_inj (by decide) (by decide) (short a) (short b)).1
        (List.cons.inj number).2
      exact UInt16.toNat_inj.1 numbers
  · rintro ⟨⟨hour, minute, second⟩, rfl⟩
    rw [fileName, fileName, hour, minute, second]

def recordNames (t : UtcTime) (number : UInt16) : List String :=
  [toString t.year, UtcTime.twoDigits t.month, UtcTime.twoDigits t.day, fileName t number]

theorem length_recordNames (t : UtcTime) (number : UInt16) : (recordNames t number).length = 4 := rfl

theorem isPlain_recordNames (t : UtcTime) (number : UInt16) :
    ∀ name ∈ recordNames t number, Path.IsPlain name := by
  simp only [recordNames, List.forall_mem_cons, Path.isPlain_toString, Path.isPlain_twoDigits,
    isPlain_fileName, List.not_mem_nil, IsEmpty.forall_iff, implies_true, and_self]

theorem recordNames_inj : recordNames t a = recordNames t' b ↔ t.SameSecond t' ∧ a = b := by
  have months := t.month_le
  have months' := t'.month_le
  have days := t.day_le
  have days' := t'.day_le
  have year : toString t.year = toString t'.year ↔ t.year = t'.year := Int.repr_inj
  simp only [recordNames, List.cons.injEq, and_true, fileName_inj, year,
    UtcTime.twoDigits_inj (n := t.month) (m := t'.month) (by omega) (by omega),
    UtcTime.twoDigits_inj (n := t.day) (m := t'.day) (by omega) (by omega)]
  constructor
  · rintro ⟨year, month, day, ⟨hour, minute, second⟩, number⟩
    exact ⟨⟨year, month, day, hour, minute, second⟩, number⟩
  · rintro ⟨⟨year, month, day, hour, minute, second⟩, number⟩
    exact ⟨year, month, day, ⟨hour, minute, second⟩, number⟩

theorem names_recordPath (folder : String) (t : UtcTime) (number : UInt16) :
    Path.names (recordPath folder t number) = Path.names folder ++ recordNames t number := by
  have year := Path.isPlain_toString t.year
  have month := Path.isPlain_twoDigits t.month
  have day := Path.isPlain_twoDigits t.day
  have file := isPlain_fileName t number
  rw [recordPath, Path.names_join file.slash file.ne_void, Path.names_join day.slash day.ne_void,
    Path.names_join month.slash month.ne_void, Path.names_join year.slash year.ne_void]
  simp [recordNames]

theorem recordPath_inj (folder : String) :
    recordPath folder t a = recordPath folder t' b ↔ t.SameSecond t' ∧ a = b := by
  rw [← recordNames_inj]
  constructor
  · intro same
    have names := congrArg Path.names same
    rw [names_recordPath, names_recordPath] at names
    exact List.append_cancel_left names
  · intro same
    simp only [recordNames, List.cons.injEq] at same
    obtain ⟨year, month, day, file, -⟩ := same
    rw [recordPath, recordPath, year, month, day, file]

end RecordFolder

namespace Job

variable {ε α β : Type} {but : Place → Prop}

/-- Whatever a job comes to, what was on the disk stays there, but for files at some places. -/
def Keeps (but : Place → Prop) (job : Job ε α) : Prop :=
  ∀ session, Disk.Keeps but session.disk (job.run.run session).2.disk

theorem keeps_bind {job : Job ε α} {next : α → Job ε β} (h : Keeps but job)
    (h' : ∀ a, Keeps but (next a)) : Keeps but (job >>= next) := by
  intro session
  have first := h session
  rcases ran : job.run.run session with ⟨r, session'⟩
  rw [ran] at first
  cases r with
  | error e =>
    rw [run_bind_error ran]
    exact first
  | ok a =>
    rw [run_bind_ok ran]
    exact first.trans (h' a session')

theorem keeps_onDisk {failure : ε} {change : Disk → Option Disk}
    (h : ∀ d d', change d = some d' → Disk.Keeps but d d') : Keeps but (onDisk failure change) := by
  intro session
  cases changed : change session.disk with
  | none =>
    rw [run_onDisk_of_none changed]
    exact .refl _
  | some disk =>
    rw [run_onDisk_of_some changed]
    exact h _ _ changed

theorem keeps_makeParents (failure : ε) (path : String) :
    Keeps but (makeParents failure path) := by
  unfold makeParents
  split
  · exact fun session ↦ .refl _
  · exact fun session ↦ .refl _
  · exact keeps_onDisk fun _ _ ↦ .makeFolders

theorem keeps_write (level : Level) (text : String) : Keeps but (write level text : Job ε Unit) :=
  fun _ ↦ .refl _

end Job

namespace RecordFolder

variable {s : RecordFolder} {t t' : UtcTime} {a b : UInt16} {r : Report} {session : Session}

theorem keeps_store {ε : Type} {but : Place → Prop} (failure : ε) {path : String}
    (content : ByteArray) (there : ∀ (d : Disk) p, d.place? path = some p → but p) :
    Job.Keeps but (store failure path content) :=
  Job.keeps_bind (Job.keeps_makeParents failure path) fun _ ↦
    Job.keeps_bind (Job.keeps_onDisk fun d _ written ↦ .write written (there d)) fun _ ↦
      Job.keeps_write .debug _

theorem suffix_of_recordPath {d : Disk} {p : Place} {folder : String}
    (led : d.place? (recordPath folder t a) = some p) : recordNames t a <:+ p :=
  Disk.suffix_of_place? (names_recordPath folder t a) (isPlain_recordNames t a) led

/-- A report can take the place of a file only where its own record goes. -/
theorem keeps_render (s : RecordFolder) (r : Report) (session : Session) :
    Disk.Keeps (fun p ↦ s.wants r = true ∧ recordNames session.now s.nextNumber <:+ p)
      session.disk ((s.render r).1.run.run session).2.disk := by
  cases wants : s.wants r with
  | false =>
    rw [run_render_of_not_wants wants]
    exact .refl _
  | true =>
    rw [run_render_of_wants wants, run_save]
    exact keeps_store _ _ (fun d p led ↦ ⟨rfl, suffix_of_recordPath led⟩) session

def fill (s : RecordFolder) (session : Session) : List (Report × UtcTime) → Session
  | [] => session
  | (r, now) :: calls =>
    (s.render r).2.fill ((s.render r).1.run.run { session with now }).2 calls

theorem read?_render (wants : s.wants r = true)
    (written : ((s.render r).1.run.run session).1 = .ok ()) :
    ((s.render r).1.run.run session).2.disk.read? (recordPath s.folder session.now s.nextNumber) =
      some ((document session.now s.nextNumber r).pretty 0).toUTF8 := by
  rw [run_render_of_wants wants, run_save] at *
  rcases run_store (RecordError.blocked (recordPath s.folder session.now s.nextNumber))
    (recordPath s.folder session.now s.nextNumber)
    ((document session.now s.nextNumber r).pretty 0).toUTF8 session with
    ⟨disk, stopped⟩ | ⟨session', stored, -, held⟩
  · rw [stopped] at written
    cases written
  · rw [stored]
    exact held

theorem fill_append (s : RecordFolder) (session : Session) (calls calls' : List (Report × UtcTime)) :
    s.fill session (calls ++ calls') = (s.after calls.length).fill (s.fill session calls) calls' := by
  induction calls generalizing s session with
  | nil =>
    rw [List.length_nil, after_zero]
    rfl
  | cons call calls ih =>
    rw [List.cons_append, fill, fill, ih, List.length_cons, after_render]

theorem read?_fill {content : ByteArray} {calls : List (Report × UtcTime)}
    (held : session.disk.read? (recordPath s.folder t a) = some content)
    (apart : ∀ n r' t', calls[n]? = some (r', t') → s.wants r' = true → t.SameSecond t' →
      a ≠ (s.after n).nextNumber) :
    (s.fill session calls).disk.read? (recordPath s.folder t a) = some content := by
  induction calls generalizing s session with
  | nil => exact held
  | cons call calls ih =>
    obtain ⟨r, now⟩ := call
    refine ih (s := (s.render r).2) ?_ fun n r' t' called ↦ ?_
    · refine (s.keeps_render r { session with now }).read? held fun p led ⟨wants, other⟩ ↦ ?_
      have length_eq : (recordNames t a).length = (recordNames now s.nextNumber).length := by
        rw [length_recordNames, length_recordNames]
      have same := List.suffix_of_suffix_length_le (suffix_of_recordPath led) other length_eq.le
      obtain ⟨second, number⟩ := recordNames_inj.1 (same.eq_of_length length_eq)
      refine apart 0 r now rfl wants second ?_
      rw [after_zero]
      exact number
    · rw [after_render]
      exact apart (n + 1) r' t' called

theorem nextNumber_after_inj (s : RecordFolder) {m n : Nat} (h : m ≤ n) :
    (s.after m).nextNumber = (s.after n).nextNumber ↔ 65536 ∣ n - m := by
  have number (k : Nat) : (UInt16.ofNat k).toNat = k % 65536 := UInt16.toNat_ofNat'
  rw [nextNumber, nextNumber, UInt16.add_left_inj, after, after, UInt16.add_right_inj,
    ← UInt16.toNat_inj, number, number]
  omega

theorem run_store_of_free {ε : Type} (failure : ε) {path folder : String} {content : ByteArray}
    {disk disk' : Disk} (parent : Path.parent? path = some folder) (named : folder ≠ "")
    (made : session.disk.makeFolders folder = some disk)
    (written : disk.write path content = some disk') :
    ((store failure path content).run.run session).1 = .ok () := by
  have parents : (Job.makeParents failure path).run.run session =
      (.ok (), { session with disk }) := by
    rw [Job.makeParents, parent]
    split
    case h_1 none => cases none
    case h_2 void => exact absurd (Option.some.inj void) named
    case h_3 found =>
      cases found
      exact Job.run_onDisk_of_some made
  rw [store, run_bind_ok parents, run_bind_ok (Job.run_onDisk_of_some written)]
  rfl

def newYear : UtcTime :=
  { year := 2026, month := 1, day := 1, hour := 0, minute := 0, second := 0 }

theorem recordPath_newYear : recordPath "/" newYear 1 = "/2026/01/01/00-00-00-0001.json" := by
  decide +kernel

theorem splitOn_newYear : "/2026/01/01/00-00-00-0001.json".splitOn "/" =
    ["", "2026", "01", "01", "00-00-00-0001.json"] :=
  (Path.splitOn_singleton _ '/').trans (by decide)

theorem run_render_newYear :
    ((({ folder := "/", always := true } : RecordFolder).render {}).1.run.run
      { disk := {}, now := newYear }).1 = .ok () := by
  let day : Disk :=
    { nodes := [(["2026", "01", "01"], .folder), (["2026", "01"], .folder), (["2026"], .folder)] }
  have parent : Path.parent? "/2026/01/01/00-00-00-0001.json" = some "/2026/01/01" := by
    rw [Path.parent?, splitOn_newYear]
    decide
  have folders : Path.names "/2026/01/01" = ["2026", "01", "01"] := by
    rw [Path.names, show "/" = String.ofList ['/'] from rfl, Path.splitOn_singleton]
    decide
  have made : Disk.makeFolders {} "/2026/01/01" = some day := by
    rw [Disk.makeFolders, if_pos (Disk.isPath_iff.2 (by decide)), Disk.start, ite_self, folders]
    rfl
  have free (content : ByteArray) :
      ∃ d, day.write "/2026/01/01/00-00-00-0001.json" content = some d := by
    rw [Disk.write, Disk.place?, if_pos (Disk.isPath_iff.2 (by decide)), Disk.start, ite_self,
      splitOn_newYear]
    exact ⟨_, rfl⟩
  obtain ⟨disk, stored⟩ := free ((document newYear 1 {}).pretty 0).toUTF8
  rw [run_render_of_wants rfl, run_save]
  exact run_store_of_free _ (recordPath_newYear ▸ parent) (by decide) made
    (recordPath_newYear ▸ stored)

/-- The path of a record is that of another one just where the two are written in the same second and
have the same number, and numbers come back after 65536 reports. So whatever reports a folder is given
and at whatever times, a record that was written can be read, unless another one was written in the same
second after a multiple of 65536 reports. -/
theorem records_last (s : RecordFolder) :
    (∀ (t t' : UtcTime) (a b : UInt16),
      recordPath s.folder t a = recordPath s.folder t' b ↔ t.SameSecond t' ∧ a = b) ∧
    (∀ m n, m ≤ n → ((s.after m).nextNumber = (s.after n).nextNumber ↔ 65536 ∣ n - m)) ∧
    ∀ (session : Session) (calls : List (Report × UtcTime)) (m : Nat) (r : Report) (t : UtcTime),
      calls[m]? = some (r, t) → s.wants r = true →
      (((s.after m).render r).1.run.run { s.fill session (calls.take m) with now := t }).1 = .ok () →
      (∀ n r' t', m < n → calls[n]? = some (r', t') → s.wants r' = true → t.SameSecond t' →
        ¬ 65536 ∣ n - m) →
      (s.fill session calls).disk.read? (recordPath s.folder t (s.after m).nextNumber) =
        some ((document t (s.after m).nextNumber r).pretty 0).toUTF8 := by
  refine ⟨fun t t' a b ↦ recordPath_inj s.folder, fun m n ↦ s.nextNumber_after_inj, ?_⟩
  intro session calls m r t called wants written apart
  obtain ⟨inside, here⟩ := List.getElem?_eq_some_iff.1 called
  have split : calls = calls.take m ++ (r, t) :: calls.drop (m + 1) := by
    rw [← here, List.getElem_cons_drop, List.take_append_drop]
  have count : (calls.take m).length = m := List.length_take_of_le (Nat.le_of_lt inside)
  rw [split, fill_append, count, fill]
  refine read?_fill (read?_render wants written) fun n r' t' later wants' second ↦ ?_
  rw [List.getElem?_drop] at later
  have distant := apart (m + 1 + n) r' t' (by omega) later wants' second
  have number := nextNumber_after_inj (s.after m) (Nat.zero_le (n + 1))
  rw [after_zero] at number
  rw [after_render, Ne, number]
  intro multiple
  exact distant ((show n + 1 - 0 = m + 1 + n - m by omega) ▸ multiple)

theorem records_last_one_second :
    ∃ (s : RecordFolder) (session : Session) (t : UtcTime), s.number = 0 ∧ s.wants {} = true ∧
      ((s.render {}).1.run.run { session with now := t }).1 = .ok () ∧
      (s.fill session [({}, t), ({}, t)]).disk.read? (recordPath s.folder t 1) =
        some ((document t 1 {}).pretty 0).toUTF8 := by
  obtain ⟨-, -, last⟩ := records_last { folder := "/", always := true }
  refine ⟨_, { disk := {}, now := newYear }, newYear, rfl, rfl, run_render_newYear, ?_⟩
  refine last _ [({}, newYear), ({}, newYear)] 0 {} newYear rfl rfl run_render_newYear
    fun n r' t' later called _ _ ↦ ?_
  have few : n < 2 := (List.getElem?_eq_some_iff.1 called).1
  omega

end RecordFolder

end FaceDecode
