import FaceDecode.Proofs.Logging
import FaceDecode.Proofs.Storage.Writing
import FaceDecode.Proofs.Text.Digits
import FaceDecode.Sink.RecordFolder
import Mathlib

namespace FaceDecode

namespace Job

variable {ε : Type} {failure : ε} {change : Disk → Option Disk} {session : Session}

theorem run_onDisk_of_some {disk : Disk} (h : change session.disk = some disk) :
    (onDisk failure change).run.run session = (.ok (), { session with disk }) := by
  have known : (get : Job ε Session).run.run session = (.ok session, session) := rfl
  unfold onDisk
  rw [run_bind_ok known, h]
  rfl

theorem run_onDisk_of_none (h : change session.disk = none) :
    (onDisk failure change).run.run session = (.error failure, session) := by
  have known : (get : Job ε Session).run.run session = (.ok session, session) := rfl
  unfold onDisk
  rw [run_bind_ok known, h]
  rfl

theorem run_makeParents (failure : ε) (path : String) (session : Session) :
    (∃ disk, (makeParents failure path).run.run session = (.ok (), { session with disk })) ∨
      (makeParents failure path).run.run session = (.error failure, session) := by
  unfold makeParents
  split
  · exact .inl ⟨session.disk, rfl⟩
  · exact .inl ⟨session.disk, rfl⟩
  · rename_i folder _ _
    cases made : session.disk.makeFolders folder with
    | some disk => exact .inl ⟨disk, run_onDisk_of_some made⟩
    | none => exact .inr (run_onDisk_of_none made)

end Job

theorem Json.exists_pretty_object (depth : Nat) (name name' : String) (j j' : Json)
    (fields : List (String × Json)) :
    ∃ rest, (object ((name, j) :: (name', j') :: fields)).pretty depth =
      "\x7b" ++ indent (depth + 1) ++ quote name ++ ": " ++ j.pretty (depth + 1) ++ "," ++ rest := by
  rw [pretty, encloseLines, prettyFields, prettyFields, if_neg (by simp), List.map_cons, List.map_cons,
    String.intercalate_cons_cons]
  simp only [String.append_assoc]
  exact ⟨_, rfl⟩

namespace RecordFolder

variable {s : RecordFolder} {r : Report} {session : Session} {ε : Type}

def after (s : RecordFolder) (count : Nat) : RecordFolder :=
  { s with number := s.number + .ofNat count }

theorem after_zero (s : RecordFolder) : s.after 0 = s := by
  rw [after]
  exact congrArg (fun number ↦ { s with number }) (UInt16.add_zero s.number)

theorem after_render (s : RecordFolder) (r : Report) (count : Nat) :
    (s.render r).2.after count = s.after (count + 1) := by
  have numbers : s.number + 1 + .ofNat count = s.number + .ofNat (count + 1) := by
    rw [UInt16.ofNat_add, UInt16.add_assoc, UInt16.add_comm 1]
    rfl
  exact congrArg (fun number ↦ { s with number }) numbers

def store (failure : ε) (path : String) (content : ByteArray) : Job ε Unit := do
  Job.makeParents failure path
  Job.onDisk failure (·.write path content)
  Job.write .debug s!"保存检测记录到文件: {path}"

theorem run_store (failure : ε) (path : String) (content : ByteArray) (session : Session) :
    (∃ disk, (store failure path content).run.run session =
      (.error failure, { session with disk })) ∨
    ∃ session', (store failure path content).run.run session = (.ok (), session') ∧
      session'.log.size = session.log.size + 1 ∧ session'.disk.read? path = some content := by
  unfold store
  rcases Job.run_makeParents failure path session with ⟨disk, made⟩ | blocked
  · rw [run_bind_ok made]
    cases written : disk.write path content with
    | none =>
      have stopped : (Job.onDisk failure (·.write path content)).run.run { session with disk } =
        (.error failure, { session with disk }) := Job.run_onDisk_of_none written
      rw [run_bind_error stopped]
      exact .inl ⟨disk, rfl⟩
    | some disk' =>
      have stored : (Job.onDisk failure (·.write path content)).run.run { session with disk } =
        (.ok (), { session with disk := disk' }) := Job.run_onDisk_of_some written
      rw [run_bind_ok stored]
      exact .inr ⟨_, rfl, Array.size_push _, Disk.read?_of_write written⟩
  · rw [run_bind_error blocked]
    exact .inl ⟨session.disk, rfl⟩

theorem run_save (s : RecordFolder) (number : UInt16) (r : Report) (session : Session) :
    (s.save number r).run.run session =
      (store (.blocked (recordPath s.folder session.now number))
        (recordPath s.folder session.now number)
        ((document session.now number r).pretty 0).toUTF8).run.run session := by
  have known : (get : Job RecordError Session).run.run session = (.ok session, session) := rfl
  unfold save
  rw [run_bind_ok known]
  rfl

theorem run_render_of_wants (h : s.wants r = true) (session : Session) :
    (s.render r).1.run.run session = (s.save s.nextNumber r).run.run session := by
  rw [render, if_pos h]

theorem run_render_of_not_wants (h : s.wants r = false) (session : Session) :
    (s.render r).1.run.run session = (.ok (), session) := by
  rw [render, if_neg (by rw [h]; exact Bool.false_ne_true)]
  rfl

theorem fileName_toList (t : UtcTime) (number : UInt16) :
    (fileName t number).toList = Digits.padded 10 2 t.hour ++ '-' :: Digits.padded 10 2 t.minute ++
      '-' :: Digits.padded 10 2 t.second ++ '-' :: Digits.padded 16 4 number.toNat ++
        ".json".toList := by
  simp [fileName, UtcTime.twoDigits]

theorem slash_notMem_fileName (t : UtcTime) (number : UInt16) :
    '/' ∉ (fileName t number).toList := by
  have plain (base width n : Nat) (some_base : 0 < base) (small : base ≤ 16) :
      '/' ∉ Digits.padded base width n := by
    intro h
    exact absurd (Digits.mem_padded some_base small width n _ h) (by decide)
  rw [fileName_toList]
  simp [plain]

theorem isVoid_fileName (t : UtcTime) (number : UInt16) :
    Path.isVoid (fileName t number) = false := by
  have long : (fileName t number).toList.length = 18 := by
    rw [fileName_toList]
    simp [Digits.length_padded]
  rw [Path.isVoid, Bool.or_eq_false_iff, beq_eq_false_iff_ne, beq_eq_false_iff_ne]
  constructor
  · intro empty
    rw [empty] at long
    exact absurd long (by decide)
  · intro dot
    rw [dot] at long
    exact absurd long (by decide)

theorem getLast?_names_recordPath (folder : String) (t : UtcTime) (number : UInt16) :
    (Path.names (recordPath folder t number)).getLast? = some (fileName t number) :=
  Path.getLast?_names_join (slash_notMem_fileName t number) (isVoid_fileName t number) _

/-- A record has its number, in digits, as its first field and, in four digits to the base of sixteen,
at the end of its file name. -/
structure Numbered (id : Nat) (path text : String) : Prop where
  named : ∃ (time : String) (digits : List Char) (values : List Nat),
    (Path.names path).getLast? = some (time ++ "-" ++ .ofList digits ++ ".json") ∧
      digits.length = 4 ∧ (∀ c ∈ digits, c ∈ "0123456789ABCDEF".toList) ∧
      digits.mapM Digits.hexValue? = some values ∧ Nat.ofDigits 16 values.reverse = id
  told : ∃ fields : List (String × Json), "frame_id" ∉ fields.map Prod.fst ∧
    text = (Json.object (("frame_id", .ofNat id) :: fields)).pretty 0
  written : ∃ rest : String, text = "\x7b\n  \"frame_id\": " ++ toString id ++ "," ++ rest

theorem numbered (folder : String) (t : UtcTime) (number : UInt16) (r : Report) :
    Numbered number.toNat (recordPath folder t number) ((document t number r).pretty 0) := by
  obtain ⟨values, read, value⟩ := Digits.hexValue?_padded 4 number.toNat
  constructor
  · refine ⟨_, Digits.padded 16 4 number.toNat, values, getLast?_names_recordPath folder t number,
      Digits.length_padded 16 4 _, Digits.mem_padded (by decide) (by decide) 4 _, read, ?_⟩
    rw [value]
    exact Nat.mod_eq_of_lt number.toNat_lt
  · exact ⟨_, by simp, rfl⟩
  · obtain ⟨rest, begun⟩ := Json.exists_pretty_object 0 "frame_id" "timestamp" (.ofNat number.toNat)
      (.text t.text) [("faces", r.facesDocument), ("ae_roi", r.exposureDocument)]
    have label : "\x7b" ++ Json.indent 1 ++ Json.quote "frame_id" ++ ": " =
      "\x7b\n  \"frame_id\": " := by cbv
    refine ⟨rest, ?_⟩
    rw [document, begun, label]
    rfl

end RecordFolder

end FaceDecode
