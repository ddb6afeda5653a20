import FaceDecode.Sink.LogSink

namespace FaceDecode.LogSink

/-- Whether a line tells of a face beside its number: of its score, its box and its five points. -/
def TellsFace (n : Nat) (f : Face) (line : Line) : Prop :=
  ∃ a b c d e : Point Int32, f.landmarks = #v[a, b, c, d, e] ∧
    line = ⟨.info, s!"人脸 {n}: 置信度 {Number.thousandths f.score}, " ++
      s!"框 ({f.box.x1.toInt}, {f.box.y1.toInt}) - ({f.box.x2.toInt}, {f.box.y2.toInt}), " ++
      s!"关键点 [[{a.x.toInt}, {a.y.toInt}], [{b.x.toInt}, {b.y.toInt}], " ++
      s!"[{c.x.toInt}, {c.y.toInt}], [{d.x.toInt}, {d.y.toInt}], [{e.x.toInt}, {e.y.toInt}]]"⟩

/-- What lines tell of a report: how many faces it has, and then of each face; and with an exposure, how
many windows that has, and then of each window. -/
structure Tells (r : Report) (lines : List Line) : Prop where
  length_eq : lines.length =
    1 + r.faces.length + (r.exposure.map fun windows ↦ 1 + windows.length).getD 0
  count : lines[0]? = some ⟨.info, s!"检测到 {r.faces.length} 个人脸"⟩
  face : ∀ (i : Nat) (f : Face), r.faces[i]? = some f →
    ∃ line, lines[1 + i]? = some line ∧ TellsFace (i + 1) f line
  windowCount : ∀ windows, r.exposure = some windows →
    lines[1 + r.faces.length]? = some ⟨.info, s!"AE ROI 窗口 {windows.length} 个"⟩
  window : ∀ (windows : List ExposureWindow) (i : Nat) (w : ExposureWindow),
    r.exposure = some windows → windows[i]? = some w →
    lines[2 + r.faces.length + i]? = some ⟨.info,
      s!"ROI 窗口: 偏移 ({w.left}, {w.top}), 尺寸 {w.width}x{w.height}, " ++
      s!"权重 {Number.thousandths w.weight}"⟩

theorem tellsFace_faceLine (n : Nat) (f : Face) : TellsFace n f (faceLine n f) := by
  obtain ⟨score, box, landmarks⟩ := f
  obtain ⟨a, b, c, d, e, rfl⟩ : ∃ a b c d e, landmarks = #v[a, b, c, d, e] := by
    refine ⟨landmarks[0], landmarks[1], landmarks[2], landmarks[3], landmarks[4], ?_⟩
    ext i hi
    match i, hi with
    | 0, _ | 1, _ | 2, _ | 3, _ | 4, _ => rfl
  refine ⟨a, b, c, d, e, rfl, ?_⟩
  have plain (text : String) : toString text = text := rfl
  rw [faceLine, Line.mk.injEq, ← String.toList_inj]
  simp [pointText, plain]

variable {r : Report}

theorem getElem?_reportLines_face {i : Nat} {f : Face} (found : r.faces[i]? = some f) :
    (reportLines r)[1 + i]? = some (faceLine (i + 1) f) := by
  have inside := (List.getElem?_eq_some_iff.1 found).1
  rw [reportLines, List.cons_append, Nat.add_comm, List.getElem?_cons_succ,
    List.getElem?_append_left (by simpa using inside), List.getElem?_mapIdx, found]
  rfl

theorem getElem?_reportLines_window {windows : List ExposureWindow}
    (exposed : r.exposure = some windows) (i : Nat) :
    (reportLines r)[1 + r.faces.length + i]? = (windowLines windows)[i]? := by
  rw [reportLines, exposed, List.getElem?_append_right (by simp; omega)]
  simp [Nat.add_comm]

theorem tells_reportLines (r : Report) : Tells r (reportLines r) := by
  constructor
  · cases exposed : r.exposure with
    | none => simp [reportLines, exposed, Nat.add_comm]
    | some windows =>
      simp only [reportLines, exposed, windowLines, Option.map_some, Option.getD_some,
        List.length_append, List.length_cons, List.length_mapIdx, List.length_map]
      omega
  · rfl
  · intro i f found
    exact ⟨_, getElem?_reportLines_face found, tellsFace_faceLine _ f⟩
  · intro windows exposed
    exact getElem?_reportLines_window exposed 0
  · intro windows i w exposed found
    have later : 2 + r.faces.length + i = 1 + r.faces.length + (i + 1) := by omega
    rw [later, getElem?_reportLines_window exposed, windowLines, List.getElem?_cons_succ,
      List.getElem?_map, found]
    rfl

theorem isShown_of_mem_reportLines {r : Report} {line : Line} (h : line ∈ reportLines r) :
    line.level.isShown = true := by
  rcases List.mem_append.1 h with h | h
  · rcases List.mem_cons.1 h with rfl | h
    · rfl
    · obtain ⟨i, hi, rfl⟩ := List.mem_mapIdx.1 h
      rfl
  · cases exposed : r.exposure with
    | none => simp [exposed] at h
    | some windows =>
      rw [exposed] at h
      rcases List.mem_cons.1 h with rfl | h
      · rfl
      · obtain ⟨w, -, rfl⟩ := List.mem_map.1 h
        rfl

theorem filter_commandLine (commands : List MarkerCommand) :
    (commands.map commandLine).filter (·.level.isShown) = [] := by
  simp [commandLine, Level.isShown]

theorem filter_lines (r : Report) (commands : List MarkerCommand) :
    (reportLines r ++ commands.map commandLine).filter (·.level.isShown) = reportLines r := by
  rw [List.filter_append, filter_commandLine, List.append_nil, List.filter_eq_self]
  exact fun line h ↦ isShown_of_mem_reportLines h

end FaceDecode.LogSink
