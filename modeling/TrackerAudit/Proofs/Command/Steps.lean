import TrackerAudit.Command.Run
import TrackerAudit.Proofs.Evidence.Loading
import TrackerAudit.Proofs.Files.Growth
import TrackerAudit.Proofs.Json.Record

/-!
# Steps in a world

What steps of commands do to a world. Some only read: they leave the world as it is (`Steps.IsReading`). A file is written
in full, or nothing changes (`Steps.exec_write`). Writing a file makes the tree grow by that file alone, which then has the
text that was written (`Steps.writeJson_eq_ok`).
-/

namespace TrackerAudit

variable {α β ε : Type} {w w' : World}

/-! ### Steps -/

namespace Steps

/-- The result of steps from a world, and the world after them. -/
def exec (x : Steps WorldM α) (w : World) : Except CommandFault α × World := x.run.run w

/-- The steps leave every world as it is. -/
def IsReading (x : Steps WorldM α) : Prop := ∀ w, (x.exec w).2 = w

theorem exec_pure (a : α) (w : World) : (pure a : Steps WorldM α).exec w = (.ok a, w) := rfl

theorem exec_bind (x : Steps WorldM α) (f : α → Steps WorldM β) (w : World) :
    (x >>= f).exec w = match x.exec w with
      | (.ok a, w') => (f a).exec w'
      | (.error e, w') => (.error e, w') := by
  change ((ExceptT.bindCont f (x.exec w).1).run (x.exec w).2) = _
  obtain ⟨r, w'⟩ := x.exec w
  cases r <;> rfl

theorem exec_bind_eq_ok {x : Steps WorldM α} {f : α → Steps WorldM β} {b : β} :
    (x >>= f).exec w = (.ok b, w') ↔ ∃ a w₁, x.exec w = (.ok a, w₁) ∧ (f a).exec w₁ = (.ok b, w') := by
  rw [exec_bind]
  obtain ⟨r, w₁⟩ := x.exec w
  cases r <;> simp

theorem exec_attempt (action : WorldM (Except ε α)) (fault : ε → CommandFault) (w : World) :
    (attempt action fault).exec w = ((action.run w).1.mapError fault, (action.run w).2) := rfl

theorem attempt_eq_ok {action : WorldM (Except ε α)} {fault : ε → CommandFault} {a : α} :
    (attempt action fault).exec w = (.ok a, w') ↔ action.run w = (.ok a, w') := by
  have hmap (r : Except ε α) : r.mapError fault = .ok a ↔ r = .ok a := by cases r <;> simp [Except.mapError]
  change _ ↔ Prod.mk (action.run w).1 (action.run w).2 = (.ok a, w')
  rw [exec_attempt, Prod.mk.injEq, Prod.mk.injEq, hmap]

theorem isReading_attempt {action : WorldM (Except ε α)} (h : action.IsReading) (fault : ε → CommandFault) :
    IsReading (attempt action fault) := h

theorem isReading_bind {x : Steps WorldM α} {f : α → Steps WorldM β} (hx : x.IsReading) (hf : ∀ a, (f a).IsReading) :
    (x >>= f).IsReading := by
  intro w
  have hx := hx w
  rw [exec_bind]
  rcases h : x.exec w with ⟨r, w'⟩
  rw [h] at hx
  cases r with
  | error e => exact hx
  | ok a => exact (hf a w').trans hx

theorem isReading_expect (value : Option α) (fault : CommandFault) : IsReading (expect value fault) := by
  cases value <;> exact fun _ => rfl

theorem isReading_pure (a : α) : IsReading (pure a) := fun _ => rfl

theorem IsReading.eq_of_exec {x : Steps WorldM α} (h : x.IsReading) {r : Except CommandFault α}
    (hx : x.exec w = (r, w')) : w' = w := by
  have := h w
  rwa [hx] at this

/-- Steps that leave a world as it is fail there or come to their end there. -/
theorem exec_cases {x : Steps WorldM α} (h : (x.exec w).2 = w) :
    (∃ e, x.exec w = (.error e, w)) ∨ ∃ a, x.exec w = (.ok a, w) := by
  rcases hx : x.exec w with ⟨r, w'⟩
  rw [hx] at h
  obtain rfl : w' = w := h
  cases r with
  | error e => exact Or.inl ⟨e, rfl⟩
  | ok a => exact Or.inr ⟨a, rfl⟩

theorem exec_printLines (lines : List Text) (w : World) :
    ∃ printed, (printLines lines).exec w = (.ok (), { w with printed }) := by
  induction lines generalizing w with
  | nil => exact ⟨w.printed, rfl⟩
  | cons l lines ih =>
    obtain ⟨printed, h⟩ := ih { w with printed := .text l :: w.printed }
    exact ⟨printed, h⟩

theorem tree_of_printLines {lines : List Text} (h : (printLines lines).exec w = (.ok (), w')) : w'.tree = w.tree := by
  obtain ⟨printed, hprinted⟩ := exec_printLines lines w
  rw [hprinted] at h
  cases h
  rfl

theorem createDirectories_eq_ok {dir : Path} {fault : FileError → CommandFault}
    (h : (attempt (Files.createDirectories (m := WorldM) dir) fault).exec w = (.ok (), w')) :
    w.tree.Grows w'.tree [] := by
  obtain rfl : _ = w' := congrArg Prod.snd (attempt_eq_ok.1 h)
  exact FileTree.grows_createDirectories w.tree dir

/-- A file is written in full, or nothing changes. -/
theorem exec_write (path : Path) (content : Text) (fault : FileError → CommandFault) (w : World) :
    (∃ tree, w.tree.write path content = .ok tree ∧
      (attempt (Files.write (m := WorldM) path content) fault).exec w = (.ok (), { w with tree })) ∨
    ∃ f, (attempt (Files.write (m := WorldM) path content) fault).exec w = (.error f, w) := by
  have hresult (r : Except FileError Unit × World) (h : (Files.write (m := WorldM) path content).run w = r) :
      (attempt (Files.write (m := WorldM) path content) fault).exec w = (r.1.mapError fault, r.2) := by
    rw [exec_attempt, h]
  cases hwrite : w.tree.write path content with
  | error e =>
    refine Or.inr ⟨fault e, hresult (.error e, w) ?_⟩
    simp only [Files.write, modifyGet, MonadStateOf.modifyGet, StateT.modifyGet, StateT.run, hwrite]
    rfl
  | ok tree =>
    refine Or.inl ⟨tree, rfl, hresult (.ok (), { w with tree }) ?_⟩
    simp only [Files.write, modifyGet, MonadStateOf.modifyGet, StateT.modifyGet, StateT.run, hwrite]
    rfl

theorem write_eq_ok {path : Path} {content : Text} {fault : FileError → CommandFault}
    (h : (attempt (Files.write (m := WorldM) path content) fault).exec w = (.ok (), w')) :
    w.tree.write path content = .ok w'.tree := by
  rcases exec_write path content fault w with ⟨tree, hwrite, hexec⟩ | ⟨f, hexec⟩
  · rw [hexec] at h
    cases h
    exact hwrite
  · rw [hexec] at h
    cases h

theorem writeJson_eq_ok {path : Path} {j : Json} (h : (writeJson path j).exec w = (.ok (), w')) :
    w.tree.Grows w'.tree [path] ∧ w'.tree.readText path = .ok j.pretty := by
  have hsteps : ∃ w₁ : World, w.tree.Grows w₁.tree [] ∧ w₁.tree.write path j.pretty = .ok w'.tree := by
    unfold writeJson at h
    dsimp only at h
    split at h
    · exact ⟨w, .refl w.tree, write_eq_ok h⟩
    · obtain ⟨⟨⟩, w₁, hdirectories, hwrite⟩ := exec_bind_eq_ok.1 h
      exact ⟨w₁, createDirectories_eq_ok hdirectories, write_eq_ok hwrite⟩
  obtain ⟨w₁, hgrows, hwrite⟩ := hsteps
  exact ⟨hgrows.trans (FileTree.grows_of_write hwrite), FileTree.readText_of_write hwrite⟩

theorem exec_readText {path : Path} {content : Text} (fault : FileError → CommandFault)
    (h : w.tree.readText path = .ok content) :
    (attempt (Files.readText (m := WorldM) path) fault).exec w = (.ok content, w) :=
  attempt_eq_ok.2 (congrArg (·, w) h)

theorem exec_readJson {path : Path} {j : Json} {decode : Decoder α} {a : α} (h : w.tree.readText path = .ok j.pretty)
    (hj : j.ReadsAs decode a) : (readJson path decode).exec w = (.ok a, w) := by
  rw [readJson, exec_bind, exec_readText _ h]
  dsimp only
  rw [show (Json.read? j.pretty).bind decode = some a from hj]
  rfl

end Steps

end TrackerAudit
