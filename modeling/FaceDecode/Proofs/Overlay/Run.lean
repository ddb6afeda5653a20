import FaceDecode.Proofs.Overlay.Replay

namespace FaceDecode.Overlay

open Display

inductive Event where
  | update (boxes : List PixelBox)
  | finish

/-- The boxes to be shown when an event is over. -/
def Event.boxes : Event → List PixelBox
  | .update boxes => boxes
  | .finish => []

def handle (o : Overlay) : Event → List MarkerCommand × Overlay
  | .update boxes => o.update boxes
  | .finish => o.finish

/-- Handles an event and carries its commands out. -/
def play (s : Overlay × Display) (e : Event) : Option (Overlay × Display) :=
  (s.2.replay (s.1.handle e).1).map fun d ↦ ((s.1.handle e).2, d)

def run (s : Overlay × Display) (history : List Event) : Option (Overlay × Display) :=
  history.foldlM play s

theorem handle_eq (o : Overlay) (e : Event) : o.handle e = o.update e.boxes := by
  cases e with
  | update boxes => rfl
  | finish => exact Prod.ext (List.append_nil _).symm rfl

variable {o : Overlay} {areas : List DisplayArea} {e : Event}

theorem play_eq (same : areas.length = o.shown) (held : o.shown < UInt32.size)
    (counted : e.boxes.length < UInt32.size) :
    play (o, ofAreas areas) e =
      some ({ o with shown := e.boxes.length }, ofAreas (e.boxes.map o.area)) := by
  rw [play, handle_eq, replay_update o same held counted]
  rfl

/-- What came before the last event has left no trace. -/
theorem run_concat (same : areas.length = o.shown) (held : o.shown < UInt32.size)
    {history : List Event} (counted : ∀ e' ∈ history ++ [e], e'.boxes.length < UInt32.size) :
    run (o, ofAreas areas) (history ++ [e]) =
      some ({ o with shown := e.boxes.length }, ofAreas (e.boxes.map o.area)) := by
  induction history using List.reverseRecOn generalizing e with
  | nil =>
    have last := play_eq same held (counted e (by simp))
    simpa [run] using last
  | append_singleton history e' ih =>
    have before := ih (e := e') fun e'' h ↦ counted e'' (List.mem_append_left _ h)
    have held' : e'.boxes.length < UInt32.size := counted e' (by simp)
    have last := play_eq (o := { o with shown := e'.boxes.length })
      (List.length_map o.area) held' (counted e (by simp))
    rw [run] at before ⊢
    rw [List.foldlM_append, before]
    simp only [Option.bind_eq_bind, Option.bind_some, List.foldlM_cons, List.foldlM_nil, bind_pure]
    exact last

/-- On a display that starts with its first marker, every command of a run can be carried out. The
overlay always counts the markers shown; after an update they are those of its boxes, and after the
end there are none left to clear. -/
theorem run_shows (model display : Size) {d : Display} (one : d.markers = {1}) (history : List Event)
    (counted : ∀ e ∈ history, e.boxes.length < UInt32.size) :
    ∃ o d', run ({ model, display }, d) history = some (o, d') ∧
      d'.markers.encard = o.shown ∧
      (∀ boxes, history.getLast? = some (.update boxes) →
        d' = ofAreas (boxes.map (area { model, display }))) ∧
      (history.getLast? = some .finish → d'.markers = ∅ ∧ o.finish.1 = []) ∧
      ∀ boxes : List PixelBox, boxes.length < UInt32.size → ∀ m area,
        .draw m area ∈ (o.update boxes).1 → .clear m ∉ (o.update boxes).1 := by
  obtain ⟨first, rfl⟩ := eq_ofAreas one
  let start : Overlay := { model, display }
  have held : 1 < UInt32.size := by decide
  cases history using List.reverseRecOn with
  | nil =>
    refine ⟨start, ofAreas [first], rfl, encard_markers held, by simp, by simp, ?_⟩
    exact fun boxes hb m area drawn ↦ not_clear_of_draw start held hb drawn
  | append_singleton history e =>
    have ran := run_concat (show [first].length = start.shown from rfl) held counted
    have held' : e.boxes.length < UInt32.size := counted e (by simp)
    refine ⟨_, _, ran, ?_, ?_, ?_, ?_⟩
    · rw [encard_markers (by simpa using held'), List.length_map]
    · intro boxes last
      obtain rfl : e = .update boxes := by simpa using last
      rfl
    · intro last
      obtain rfl : e = .finish := by simpa using last
      exact ⟨by simp [Event.boxes, markers_ofAreas], rfl⟩
    · exact fun boxes hb m area drawn ↦ not_clear_of_draw _ held' hb drawn

theorem run_shows_two_then_one :
    (ofAreas [⟨0, 0, 0, 0⟩]).markers = {1} ∧
      ∃ o d', run ({}, ofAreas [⟨0, 0, 0, 0⟩])
          [.update [⟨100, 100, 200, 300⟩, ⟨1, 1, 1280, 720⟩], .finish, .update [⟨5, 5, 15, 15⟩]] =
            some (o, d') ∧
        d' = ofAreas [⟨7, 7, 22, 22⟩] := by
  have one : (ofAreas [⟨0, 0, 0, 0⟩]).markers = {1} := by
    rw [markers_ofAreas (by decide)]
    simp [marker]
  obtain ⟨o, d', ran, -, shown, -⟩ := run_shows ⟨1280, 720⟩ ⟨1920, 1080⟩ one
    [.update [⟨100, 100, 200, 300⟩, ⟨1, 1, 1280, 720⟩], .finish, .update [⟨5, 5, 15, 15⟩]] (by decide)
  exact ⟨one, o, d', ran, shown _ rfl⟩

end FaceDecode.Overlay
