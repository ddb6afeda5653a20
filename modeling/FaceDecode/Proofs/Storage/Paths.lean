import FaceDecode.Storage.Disk
import Mathlib.Data.String.Basic

namespace FaceDecode

namespace Path

open String (utf8Len)

variable {folder name : String}

/-- Splitting goes on at the end of a part `m` of the text, with `l` before it. -/
theorem splitOnAux_of_valid (c : Char) (l m r : List Char) (before : List String) :
    String.splitOnAux (.ofList (l ++ m ++ r)) (.ofList [c]) ⟨utf8Len l⟩ ⟨utf8Len l + utf8Len m⟩ 0
      before = before.reverse ++ (List.splitOnPPrepend (· == c) r m.reverse).map .ofList := by
  induction r generalizing l m before with
  | nil =>
    have ended := (String.atEnd_of_valid (l ++ m) []).2 rfl
    rw [String.utf8Len_append] at ended
    rw [String.splitOnAux, if_pos ended, String.extract_of_valid]
    simp
  | cons a r ih =>
    have inside : ¬String.Pos.Raw.atEnd (.ofList (l ++ m ++ a :: r)) ⟨utf8Len l + utf8Len m⟩ := by
      rw [← String.utf8Len_append, String.atEnd_of_valid]
      exact List.cons_ne_nil a r
    have here := String.get_of_valid (l ++ m) (a :: r)
    have past := String.next_of_valid (l ++ m) a r
    rw [String.utf8Len_append] at here past
    -- The separator is a single character: after it has matched, matching starts anew.
    have mark : String.Pos.Raw.get (.ofList [c]) 0 = c := String.get_of_valid [] [c]
    have pastMark : String.Pos.Raw.next (.ofList [c]) 0 = ⟨0 + c.utf8Size⟩ :=
      String.next_of_valid [] c []
    have matched : String.Pos.Raw.atEnd (.ofList [c]) ⟨0 + c.utf8Size⟩ = true :=
      (String.atEnd_of_valid [c] []).2 rfl
    rw [String.splitOnAux, if_neg inside, here, past, mark, pastMark, if_pos matched,
      List.headD_cons]
    split
    case isTrue same =>
      obtain rfl := eq_of_beq same
      have back : String.Pos.Raw.unoffsetBy ⟨utf8Len l + utf8Len m + a.utf8Size⟩ ⟨0 + a.utf8Size⟩ =
          ⟨utf8Len l + utf8Len m⟩ := by
        simp [String.Pos.Raw.unoffsetBy]
      have later := ih (l ++ m ++ [a]) [] (.ofList m :: before)
      rw [back, String.extract_of_valid]
      simpa [Nat.add_assoc, List.splitOnPPrepend_cons_eq_if] using later
    case isFalse other =>
      have back : String.Pos.Raw.unoffsetBy ⟨utf8Len l + utf8Len m⟩ 0 =
          ⟨utf8Len l + utf8Len m⟩ := by
        simp [String.Pos.Raw.unoffsetBy]
      have later := ih l (m ++ [a]) before
      rw [back, past]
      simpa [Nat.add_assoc, List.splitOnPPrepend_cons_eq_if, other] using later

theorem splitOn_singleton (text : String) (c : Char) :
    text.splitOn (.ofList [c]) = (text.toList.splitOn c).map .ofList := by
  have split := splitOnAux_of_valid c [] [] text.toList []
  rw [List.nil_append, List.nil_append, String.ofList_toList] at split
  rw [String.splitOn, if_neg (by simp)]
  exact split

theorem splitOn_append {c : Char} {last : String} (h : c ∉ last.toList) (text : String) :
    (text ++ .ofList [c] ++ last).splitOn (.ofList [c]) = text.splitOn (.ofList [c]) ++ [last] := by
  have parts : (text ++ .ofList [c] ++ last).toList = text.toList ++ c :: last.toList := by simp
  rw [splitOn_singleton, splitOn_singleton, parts, List.splitOn_append_cons_self,
    List.splitOn_eq_singleton h, List.map_append, List.map_singleton, String.ofList_toList]

theorem splitOn_of_notMem {c : Char} {text : String} (h : c ∉ text.toList) :
    text.splitOn (.ofList [c]) = [text] := by
  rw [splitOn_singleton, List.splitOn_eq_singleton h, List.map_singleton, String.ofList_toList]

theorem splitOn_eq_void_iff {c : Char} {text : String} :
    text.splitOn (.ofList [c]) = [""] ↔ text = "" := by
  constructor
  · intro h
    rw [splitOn_singleton, List.map_eq_singleton_iff] at h
    obtain ⟨part, parts, void⟩ := h
    have whole : [c].intercalate (text.toList.splitOn c) = text.toList := List.intercalate_splitOn c
    rw [parts, List.intercalate_singleton, String.ofList_eq_empty_iff.1 void] at whole
    exact String.toList_eq_nil_iff.1 whole.symm
  · rintro rfl
    exact splitOn_of_notMem (by simp)

theorem splitOn_slash_append (h : '/' ∉ name.toList) (path : String) :
    (path ++ "/" ++ name).splitOn "/" = path.splitOn "/" ++ [name] := splitOn_append h path

theorem splitOn_slash_end (path : String) :
    (path ++ "/").splitOn "/" = path.splitOn "/" ++ [""] := by
  rw [← splitOn_slash_append (by simp), String.append_empty]

theorem join_eq (h : folder ≠ "") (name : String) :
    ∃ path, join folder name = path ++ "/" ++ name ∧ (folder = path ∨ folder = path ++ "/") := by
  unfold join
  rw [if_neg (by simpa using h)]
  split
  case isTrue ends =>
    obtain ⟨front, same⟩ := String.Slice.endsWith_string_iff.1 ends
    rw [String.copy_toSlice] at same
    refine ⟨.ofList front, ?_, .inr ?_⟩
    all_goals
      rw [← String.toList_inj]
      simp [← same]
  case isFalse => exact ⟨folder, rfl, .inl rfl⟩

theorem utf8ByteSize_join_le (folder name : String) :
    (join folder name).utf8ByteSize ≤ folder.utf8ByteSize + 1 + name.utf8ByteSize := by
  have slash : "/".utf8ByteSize = 1 := rfl
  unfold join
  split
  · omega
  · split
    · rw [String.utf8ByteSize_append]
      omega
    · rw [String.utf8ByteSize_append, String.utf8ByteSize_append, slash]

theorem join_inj {name' : String} : join folder name = join folder name' ↔ name = name' := by
  unfold join
  split
  · rfl
  · split <;> exact String.append_right_inj _

structure IsName (name : String) : Prop where
  slash : '/' ∉ name.toList
  nul : '\x00' ∉ name.toList
  ne_void : isVoid name = false
  ne_up : name ≠ ".."
  short : name.utf8ByteSize ≤ maxNameBytes

instance (name : String) : Decidable (IsName name) :=
  decidable_of_iff ('/' ∉ name.toList ∧ '\x00' ∉ name.toList ∧ isVoid name = false ∧ name ≠ ".." ∧
      name.utf8ByteSize ≤ maxNameBytes)
    ⟨fun ⟨slash, nul, void, up, short⟩ ↦ ⟨slash, nul, void, up, short⟩,
      fun h ↦ ⟨h.slash, h.nul, h.ne_void, h.ne_up, h.short⟩⟩

theorem names_eq_singleton (slash : '/' ∉ name.toList) (kept : isVoid name = false) :
    names name = [name] := by
  have alone : name.splitOn "/" = [name] := splitOn_of_notMem slash
  rw [names, alone]
  simp [kept]

theorem names_join (slash : '/' ∉ name.toList) (kept : isVoid name = false) (folder : String) :
    names (join folder name) = names folder ++ [name] := by
  by_cases bare : folder = ""
  · subst bare
    have nothing : "".splitOn "/" = [""] := splitOn_of_notMem (by simp)
    rw [show join "" name = name from rfl, names_eq_singleton slash kept, names, nothing]
    rfl
  · obtain ⟨path, joined, same⟩ := join_eq bare name
    have front : names folder = names path := by
      rcases same with rfl | rfl
      · rfl
      · rw [names, names, splitOn_slash_end, List.filter_append]
        exact List.append_nil _
    rw [joined, front, names, splitOn_slash_append slash, List.filter_append, names]
    simp [kept]

theorem getLast?_names_join (slash : '/' ∉ name.toList) (kept : isVoid name = false)
    (folder : String) : (names (join folder name)).getLast? = some name := by
  rw [names_join slash kept, List.getLast?_concat]

theorem extension?_join (h : IsName name) (folder : String) :
    extension? (join folder name) = extension? name := by
  rw [extension?, extension?, getLast?_names_join h.slash h.ne_void,
    names_eq_singleton h.slash h.ne_void]
  rfl

theorem hasExtension_join (h : IsName name) (folder extension : String) :
    hasExtension (join folder name) extension = hasExtension name extension := by
  rw [hasExtension, hasExtension, extension?_join h]

/-- What follows the last dot of a name is its extension. -/
theorem extension?_dot {stem extension : String} (h : IsName (stem ++ "." ++ extension))
    (begun : stem ≠ "") (dotless : '.' ∉ extension.toList) :
    extension? (stem ++ "." ++ extension) = some extension := by
  have parts : (stem ++ "." ++ extension).splitOn "." = stem.splitOn "." ++ [extension] :=
    splitOn_append dotless stem
  have listed : stem.splitOn "." = (stem.toList.splitOn '.').map .ofList :=
    splitOn_singleton stem '.'
  rw [extension?, names_eq_singleton h.slash h.ne_void, List.getLast?_singleton, Option.bind_some,
    extensionOf?, parts, List.reverse_append]
  cases before : (stem.splitOn ".").reverse with
  | nil =>
    rw [List.reverse_eq_nil_iff, listed, List.map_eq_nil_iff] at before
    exact absurd before (List.splitOn_ne_nil _ _)
  | cons part parts =>
    have begun : part :: parts ≠ [""] := by
      intro void
      rw [void, List.reverse_eq_iff] at before
      exact begun (splitOn_eq_void_iff.1 before)
    exact if_neg (not_or.2 ⟨begun, h.ne_up⟩)

end Path

namespace Disk

variable {d : Disk} {folder name : String} {p q : Place}

theorem isFolder_iff : d.isFolder q = true ↔ d.node? q = some .folder := by
  unfold isFolder
  split
  case h_1 found => exact iff_of_true rfl found
  case h_2 other => exact iff_of_false Bool.false_ne_true other

theorem follow_congr {d' : Disk} (same : ∀ q, d'.isFolder q = d.isFolder q) (q : Place)
    (names : List String) : d'.follow q names = d.follow q names := by
  induction names generalizing q with
  | nil => rfl
  | cons name names ih => simp only [follow, same, ih]

theorem place?_congr {d' : Disk} (here : d'.here = d.here)
    (same : ∀ q, d'.isFolder q = d.isFolder q) (path : String) : d'.place? path = d.place? path := by
  rw [place?, place?, start, start, here, follow_congr same]

theorem follow_append (p : Place) (names names' : List String) :
    d.follow p (names ++ names') = (d.follow p names).bind (d.follow · names') := by
  induction names generalizing p with
  | nil => rfl
  | cons name names ih =>
    simp only [List.cons_append, follow, ih]
    split
    · rfl
    · split
      · rfl
      · split
        · rfl
        · split <;> rfl

theorem follow_name (h : Path.IsName name) (inside : d.isFolder p = true) :
    d.follow p [name] = some (p ++ [name]) := by
  have kept := h.ne_void
  rw [Path.isVoid, Bool.or_eq_false_iff, beq_eq_false_iff_ne, beq_eq_false_iff_ne] at kept
  simp [follow, inside, kept, h.ne_up, Nat.not_lt.2 h.short]

theorem follow_void_eq_some_iff :
    d.follow q [""] = some p ↔ d.isFolder q = true ∧ q = p := by
  simp [follow]

theorem folder?_eq_some_iff :
    d.folder? folder = some p ↔ d.place? folder = some p ∧ d.isFolder p = true :=
  Option.filter_eq_some_iff

theorem place?_eq_some_iff {path : String} :
    d.place? path = some p ↔
      isPath path = true ∧ d.follow (d.start path) (path.splitOn "/") = some p :=
  Option.ite_none_right_eq_some

theorem isPath_iff {path : String} : isPath path = true ↔
    path ≠ "" ∧ '\x00' ∉ path.toList ∧ path.utf8ByteSize ≤ Path.maxBytes := by
  simp [isPath, and_assoc, String.contains_char_eq]

theorem start_append {path : String} (h : path ≠ "") (rest : String) :
    d.start (path ++ rest) = d.start path := by
  have same : (path ++ rest).startsWith "/" = path.startsWith "/" := by
    rw [Bool.eq_iff_iff, String.startsWith_string_iff, String.startsWith_string_iff]
    cases chars : path.toList with
    | nil => exact absurd (String.toList_eq_nil_iff.1 chars) h
    | cons c rest => simp [chars]
  rw [start, start, same]

theorem place?_join (found : d.folder? folder = some p) (h : Path.IsName name) :
    d.place? (Path.join folder name) =
      if isPath (Path.join folder name) then some (p ++ [name]) else none := by
  obtain ⟨reached, inside⟩ := folder?_eq_some_iff.1 found
  obtain ⟨written, reached⟩ := place?_eq_some_iff.1 reached
  obtain ⟨nonempty, -⟩ := isPath_iff.1 written
  obtain ⟨path, joined, same⟩ := Path.join_eq nonempty name
  have there : d.follow (d.start folder) (path.splitOn "/") = some p ∧
      d.start (path ++ "/" ++ name) = d.start folder := by
    rcases same with rfl | rfl
    · rw [String.append_assoc, start_append nonempty]
      exact ⟨reached, rfl⟩
    · rw [Path.splitOn_slash_end, follow_append, Option.bind_eq_some_iff] at reached
      obtain ⟨q, reached, stayed⟩ := reached
      rw [follow_void_eq_some_iff] at stayed
      rw [start_append nonempty, ← stayed.2]
      exact ⟨reached, rfl⟩
  rw [place?, joined, Path.splitOn_slash_append h.slash, there.2, follow_append, there.1]
  exact if_congr Iff.rfl (follow_name h inside) rfl

theorem isPath_join (found : d.folder? folder = some p) (h : Path.IsName name)
    (short : (Path.join folder name).utf8ByteSize ≤ Path.maxBytes) :
    isPath (Path.join folder name) = true := by
  obtain ⟨reached, -⟩ := folder?_eq_some_iff.1 found
  obtain ⟨written, -⟩ := place?_eq_some_iff.1 reached
  obtain ⟨nonempty, clean, -⟩ := isPath_iff.1 written
  obtain ⟨path, joined, same⟩ := Path.join_eq nonempty name
  have clean : '\x00' ∉ path.toList := by
    rcases same with rfl | rfl
    · exact clean
    · exact fun there ↦ clean (by simp [there])
  refine isPath_iff.2 ⟨?_, ?_, short⟩
  · rw [joined]
    simp
  · rw [joined]
    simp [clean, h.nul]

theorem read?_eq_some_iff {path : String} {content : ByteArray} :
    d.read? path = some content ↔
      ∃ q, d.place? path = some q ∧ d.node? q = some (.file content) := by
  rw [← Option.bind_eq_some_iff]
  unfold read?
  split
  case h_1 content' held =>
    rw [find?] at held
    simp [held]
  case h_2 other =>
    rw [find?] at other
    simp
    exact other content

theorem read?_join {content : ByteArray} (found : d.folder? folder = some p)
    (h : Path.IsName name) : d.read? (Path.join folder name) = some content ↔
      isPath (Path.join folder name) = true ∧ d.node? (p ++ [name]) = some (.file content) := by
  rw [read?_eq_some_iff, place?_join found h]
  simp

end Disk

end FaceDecode
