import TreeInspector.Export.Basic
import TreeInspector.Proofs.Storage.Disk

/-! # What an export does

Whatever the disk refuses, the user answers and the desktop does, an export asks at most once, changes
the disk at one place or not at all, and tells the user of a failure and of a file whose folder is not
shown. The disk is given back as it was, entry by entry, unless the whole picture was saved.
-/

namespace TreeInspector

/-! ## Saving -/

namespace Disk

variable {disk : Disk}

theorem permit_eq_ok_iff {request : Request} {done : Unit} :
    disk.permit request = .ok done ↔ disk.faults request = none := by
  unfold permit
  cases disk.faults request with
  | none => simp
  | some refusal => simp

/-- A temporary file is created where nothing stands, and nothing else changes. -/
theorem createTemporary_eq_ok {folder : String} {place : Place} {created : Disk}
    (made : disk.createTemporary folder = .ok (place, created)) :
    disk.get? place = none ∧ created = disk.put place (.file (.bytes [])) := by
  simp only [createTemporary, bind_eq_ok_iff] at made
  obtain ⟨_, _, _, _, directory, _, _, _, same⟩ := made
  cases same
  exact ⟨get?_freshName disk directory, rfl⟩

theorem fill_eq_ok_iff {place : Place} {content : Content} {filled : Disk} :
    disk.fill place content = .ok filled ↔
      disk.faults .write = none ∧ disk.faults .flush = none ∧ disk.put place (.file content) = filled := by
  simp only [fill, bind_eq_ok_iff, permit_eq_ok_iff]
  exact ⟨fun ⟨_, write, _, flush, same⟩ => ⟨write, flush, Except.ok.inj same⟩,
    fun ⟨write, flush, same⟩ => ⟨(), write, (), flush, congrArg Except.ok same⟩⟩

/-- A new file moves to the place the path leads to on the disk without it. -/
theorem move_put_eq_ok_iff {place : Place} {content : Content} {path : String} {moved : Disk}
    (absent : disk.get? place = none) :
    (disk.put place (.file content)).move place path = .ok moved ↔
      disk.faults .move = none ∧
        ∃ target, disk.moveTarget path = .ok target ∧ disk.put target (.file content) = moved := by
  simp only [move, bind_eq_ok_iff, moveTarget_put_iff absent, permit_eq_ok_iff,
    get?_put_self (ne_nil_of_get? absent), remove_put absent]
  exact ⟨fun ⟨target, leads, _, allowed, same⟩ => ⟨allowed, target, leads, Except.ok.inj same⟩,
    fun ⟨allowed, target, leads, same⟩ => ⟨target, leads, (), allowed, congrArg Except.ok same⟩⟩

/-- A disk takes a file at a path: there is a folder to write it in, nothing is refused, and the path
leads a move somewhere. -/
structure Takes (disk : Disk) (path : String) : Prop where
  created : ∃ place created, disk.createTemporary (folderOf path) = .ok (place, created)
  written : disk.faults .write = none ∧ disk.faults .flush = none
  moved : disk.faults .move = none ∧ ∃ place, disk.moveTarget path = .ok place

/-- Saving is done completely or not at all. -/
theorem save_cases (content : Content) (path : String) (disk : Disk) :
    (¬disk.Takes path ∧
      ∃ refusal temporary, disk.save content path = (.error (.writing path refusal temporary), disk)) ∨
    (disk.Takes path ∧
      ∃ place, disk.moveTarget path = .ok place ∧
        disk.save content path = (.ok (), disk.put place (.file content))) := by
  cases made : disk.createTemporary (folderOf path) with
  | error refusal =>
    refine .inl ⟨fun takes => ?_, refusal, disk.temporaryPath? path (temporaryName 0), ?_⟩
    · obtain ⟨_, _, other⟩ := takes.created
      rw [made] at other
      cases other
    · delta save
      rw [made]
  | ok result =>
    obtain ⟨place, created⟩ := result
    obtain ⟨absent, rfl⟩ := createTemporary_eq_ok made
    have fillable := @fill_eq_ok_iff (disk.put place (.file (.bytes []))) place content
    cases written : (disk.put place (.file (.bytes []))).fill place content with
    | error refusal =>
      refine .inl ⟨fun takes => ?_, refusal, disk.temporaryPath? path (place.getLast?.getD ""), ?_⟩
      · rw [fillable.mpr ⟨takes.written.1, takes.written.2, rfl⟩] at written
        cases written
      · delta save
        rw [made]
        simp only [written, remove_put absent]
    | ok filled =>
      obtain ⟨write, flush, same⟩ := fillable.mp written
      rw [put_put] at same
      subst same
      cases arrived : (disk.put place (.file content)).move place path with
      | error refusal =>
        refine .inl ⟨fun takes => ?_, refusal, none, ?_⟩
        · obtain ⟨allowed, target, leads⟩ := takes.moved
          rw [(move_put_eq_ok_iff absent).mpr ⟨allowed, target, leads, rfl⟩] at arrived
          cases arrived
        · delta save
          rw [made]
          simp only [written, arrived, remove_put absent]
      | ok moved =>
        obtain ⟨allowed, target, leads, rfl⟩ := (move_put_eq_ok_iff absent).mp arrived
        refine .inr ⟨⟨⟨place, _, made⟩, ⟨write, flush⟩, allowed, target, leads⟩, target, leads, ?_⟩
        delta save
        rw [made]
        simp only [written, arrived]

end Disk

/-! ## The bytes of a picture -/

namespace Png

theorem ofWord_word {n : Nat} (bound : n < 4294967296) :
    ofWord (UInt8.ofNat (n >>> 24)) (UInt8.ofNat (n >>> 16)) (UInt8.ofNat (n >>> 8)) (UInt8.ofNat n) = n := by
  simp only [ofWord, UInt8.toNat_ofNat', Nat.shiftRight_eq_div_pow]
  omega

/-- A picture file starts with the size of its bitmap. -/
theorem size?_encode {bitmap : Bitmap} (width : bitmap.size.width < 4294967296)
    (height : bitmap.size.height < 4294967296) : size? (encode bitmap) = some bitmap.size := by
  obtain ⟨rest, written⟩ : ∃ rest, encode bitmap = signature ++ word 13 ++ [73, 72, 68, 82] ++
      word bitmap.size.width ++ word bitmap.size.height ++ rest := by
    simp only [encode, chunk, header, List.append_assoc, List.append_cancel_left_eq]
    exact ⟨_, rfl⟩
  rw [written]
  simp only [size?, signature, word, List.cons_append, List.nil_append, List.drop_succ_cons, List.drop_zero,
    ofWord_word width, ofWord_word height]
  rfl

end Png

/-! ## Rendering -/

namespace View

theorem pixels_lt (extent : Single) : pixels extent < 4294967296 := by
  unfold pixels Single.truncateBetween
  split
  · omega
  · split_ifs <;> omega
  · omega

theorem isDrawable_iff (size : PixelSize) :
    size.isDrawable = true ↔ (0 < size.width ∧ 0 < size.height) ∧ size.width * 4 ≤ 2147483647 := by
  simp only [PixelSize.isDrawable, Bool.and_eq_true, bne_iff_ne, ne_eq, Nat.pos_iff_ne_zero]
  exact and_congr_right fun _ => decide_eq_true_iff

/-- A bitmap renders a view: the view has pixels, not too many in a row, its scene is taken, and the
bitmap is a blank one of the view's size that was painted over as the scene says. -/
structure Rendered (rasterizer : Rasterizer) (view : View) (bitmap : Bitmap) : Prop where
  width : 0 < view.size.width
  height : 0 < view.size.height
  row : view.size.width * 4 ≤ 2147483647
  painted : ∃ brush, rasterizer view.scene = .ok brush ∧ bitmap = (Bitmap.blank view.size).paint brush

theorem Rendered.size {rasterizer : Rasterizer} {view : View} {bitmap : Bitmap}
    (rendered : view.Rendered rasterizer bitmap) : bitmap.size = view.size := by
  obtain ⟨brush, _, rfl⟩ := rendered.painted
  exact Bitmap.size_paint brush _

section Rasterizing

variable {rasterizer : Rasterizer} {view : View}

/-- What is painted onto a blank bitmap of the view's size. -/
theorem paintBy_blank : view.paintBy rasterizer (.blank view.size) =
    ((rasterizer view.scene).map fun brush => (Bitmap.blank view.size).paint brush).mapError .scene := by
  rw [paintBy, if_pos (Bitmap.size_blank _)]
  cases rasterizer view.scene <;> rfl

/-- Rendering gives just the bitmap that renders the view, if there is one. -/
theorem rasterize_eq_ok_iff {bitmap : Bitmap} :
    (view.renderableBy rasterizer).rasterize = .ok bitmap ↔ view.Rendered rasterizer bitmap := by
  have sized := isDrawable_iff view.size
  change (if view.size.isDrawable then view.paintBy rasterizer (.blank view.size) else _) = _ ↔ _
  rw [paintBy_blank]
  split_ifs with drawable
  · obtain ⟨⟨width, height⟩, row⟩ := sized.mp drawable
    rw [mapError_eq_ok_iff, map_eq_ok_iff]
    exact ⟨fun ⟨brush, taken, same⟩ => ⟨width, height, row, brush, taken, same.symm⟩,
      fun ⟨_, _, _, brush, taken, same⟩ => ⟨brush, taken, same.symm⟩⟩
  · exact ⟨nofun, fun rendered => absurd (sized.mpr ⟨⟨rendered.width, rendered.height⟩, rendered.row⟩) drawable⟩

/-- Rendering fails for the size of the view or for its scene. -/
theorem rasterize_fits {error : RenderError} (failed : (view.renderableBy rasterizer).rasterize = .error error)
    (expected actual : PixelSize) : error ≠ .surfaceSize expected actual := by
  rintro rfl
  change (if view.size.isDrawable then view.paintBy rasterizer (.blank view.size) else _) = _ at failed
  rw [paintBy_blank] at failed
  split_ifs at failed
  · cases taken : rasterizer view.scene with
    | error words =>
      rw [taken] at failed
      cases failed
    | ok brush =>
      rw [taken] at failed
      cases failed
  · cases failed

end Rasterizing

end View

/-! ## Exporting -/

namespace Export

/-- The picture of a view was saved: the place the answer leads to holds what the encoder gave for the
bitmap that renders the view, nothing else changed, and the folder of the file as it is then found was
asked to be shown. The program's own encoder writes a file that starts with the size of the view. -/
structure Wrote (rasterizer : Rasterizer) (encoder : Encoder) (view : View) (prompt : String → Option String)
    (revealer : Revealer) (disk : Disk) (report : Report) (path : String) (revealed : Bool) : Prop where
  written : ∃ choice place bitmap content, prompt (defaultPath disk) = some choice ∧
    disk.moveTarget choice = .ok place ∧ view.Rendered rasterizer bitmap ∧ encoder bitmap = .ok content ∧
    report.disk = disk.put place (.file content) ∧
    (∀ other, report.disk.get? other = if other = place then some (.file content) else disk.get? other) ∧
    path = (report.disk.canonical choice).toOption.getD choice ∧
    (encoder = Png.encoder → Png.size? content.data = some view.size)
  folders : report.folders = (Path.parent? path).toList
  revealed : revealed = report.folders.any fun folder => (revealer folder).isOk

/-- The user gets one warning if an export failed, one message with the path if a file was saved and its
folder not shown, and nothing else. -/
structure Notified (report : Report) : Prop where
  warned : (∃ error, report.outcome = .failed error) ↔ ∃ notice, report.notices = [notice] ∧ notice.kind = .error
  told : ∀ path, report.outcome = .saved path false ↔
    report.notices = [⟨.info, "Export", "Saved PNG to: " ++ path⟩]
  silent : report.notices = [] ↔ report.outcome = .cancelled ∨ ∃ path, report.outcome = .saved path true

/-- What is known of an export of a view, whatever the rasterizer of its scene, the encoder, the user, the
desktop and the disk do. -/
structure Accountable (rasterizer : Rasterizer) (encoder : Encoder) (view : View)
    (prompt : String → Option String) (revealer : Revealer) (disk : Disk) (report : Report) : Prop where
  /-- A view that cannot be rendered fails before anybody is asked. -/
  unrendered : (∀ bitmap, ¬view.Rendered rasterizer bitmap) →
    report.asked = [] ∧ ∃ error, report.outcome = .failed (.render error)
  /-- Otherwise the user is asked once, with the path of the default name. -/
  asked : ∀ bitmap, view.Rendered rasterizer bitmap →
    report.asked = [defaultPath disk] ∧ ∀ error, report.outcome ≠ .failed (.render error)
  /-- The bitmap never has another size than the view. -/
  fitting : ∀ expected actual, report.outcome ≠ .failed (.render (.surfaceSize expected actual))
  /-- Only the user cancels. -/
  cancelled : report.outcome = .cancelled ↔
    (∃ bitmap, view.Rendered rasterizer bitmap) ∧ prompt (defaultPath disk) = none
  /-- The picture is saved exactly if there is an answer, an encoding, and a disk that takes it. -/
  saved : report.outcome.isSaved = true ↔ ∃ bitmap, view.Rendered rasterizer bitmap ∧
    (encoder bitmap).isOk = true ∧ ∃ choice, prompt (defaultPath disk) = some choice ∧ disk.Takes choice
  /-- An export that does not save leaves the disk as it was and shows no folder. -/
  unchanged : report.outcome.isSaved = false → report.disk = disk ∧ report.folders = []
  wrote : ∀ path revealed, report.outcome = .saved path revealed →
    Wrote rasterizer encoder view prompt revealer disk report path revealed
  /-- Nothing but the outcome depends on what the desktop says. -/
  independent : ∀ other, let again := runBy encoder (view.renderableBy rasterizer) prompt other disk
    again.disk = report.disk ∧ again.asked = report.asked ∧ again.folders = report.folders
  notified : Notified report

theorem folders_reveal (revealer : Revealer) (path : String) :
    (reveal revealer path).2 = (Path.parent? path).toList := by
  unfold reveal
  cases Path.parent? path with
  | none => rfl
  | some folder => rfl

theorem revealed_reveal (revealer : Revealer) (path : String) :
    (reveal revealer path).1 = (reveal revealer path).2.any fun folder => (revealer folder).isOk := by
  unfold reveal
  cases Path.parent? path with
  | none => rfl
  | some folder => simp

/-- An answered export is cancelled, or fails with the disk as it was, or has saved the picture. -/
theorem finishBy_cases (encoder : Encoder) (pending : Pending) (choice : Option String)
    (revealer : Revealer) (disk : Disk) :
    (choice = none ∧ pending.finishBy encoder choice revealer disk = ⟨.cancelled, [], disk⟩) ∨
    (∃ path error, choice = some path ∧ ¬((encoder pending.bitmap).isOk = true ∧ disk.Takes path) ∧
      pending.finishBy encoder choice revealer disk = ⟨.failed (.save error), [], disk⟩) ∨
    (∃ path place content, choice = some path ∧ encoder pending.bitmap = .ok content ∧ disk.Takes path ∧
      disk.moveTarget path = .ok place ∧
      let after := disk.put place (.file content)
      let found := (after.canonical path).toOption.getD path
      pending.finishBy encoder choice revealer disk =
        ⟨.saved found (reveal revealer found).1, (reveal revealer found).2, after⟩) := by
  cases choice with
  | none => exact .inl ⟨rfl, rfl⟩
  | some path =>
    refine .inr ?_
    cases encoded : encoder pending.bitmap with
    | error words =>
      refine .inl ⟨path, .encoding words, rfl, fun both => absurd both.1 (by simp [Except.isOk, Except.toBool]), ?_⟩
      simp only [Pending.finishBy, Disk.savePictureBy, encoded]
    | ok content =>
      rcases disk.save_cases content path with ⟨refused, refusal, temporary, saved⟩ | ⟨takes, place, leads, saved⟩
      · refine .inl ⟨path, .writing path refusal temporary, rfl, fun both => refused both.2, ?_⟩
        simp only [Pending.finishBy, Disk.savePictureBy, encoded, saved]
      · refine .inr ⟨path, place, content, rfl, rfl, takes, leads, ?_⟩
        simp only [Pending.finishBy, Disk.savePictureBy, encoded, saved]

/-- What the desktop says changes neither the disk nor the folders that are shown. -/
theorem finishBy_independent (encoder : Encoder) (pending : Pending) (choice : Option String)
    (revealer other : Revealer) (disk : Disk) :
    (pending.finishBy encoder choice other disk).disk = (pending.finishBy encoder choice revealer disk).disk ∧
      (pending.finishBy encoder choice other disk).folders =
        (pending.finishBy encoder choice revealer disk).folders := by
  cases choice with
  | none => exact ⟨rfl, rfl⟩
  | some path =>
    simp only [Pending.finishBy]
    split
    · exact ⟨rfl, rfl⟩
    · simp only [folders_reveal, and_self]

section Runs

variable (rasterizer : Rasterizer) (encoder : Encoder) (view : View) (prompt : String → Option String)
  (revealer : Revealer) (disk : Disk)

theorem notified_runBy (view : Renderable) : Notified (runBy encoder view prompt revealer disk) := by
  have notices : (runBy encoder view prompt revealer disk).notices =
      (runBy encoder view prompt revealer disk).outcome.notice?.toList := by
    unfold runBy
    cases start view disk with
    | error error => rfl
    | ok pending => rfl
  generalize runBy encoder view prompt revealer disk = report at notices
  constructor <;> rw [notices]
  all_goals cases report.outcome with
  | cancelled => simp [Outcome.notice?]
  | saved path revealed => cases revealed <;> simp [Outcome.notice?]
  | failed error => simp [Outcome.notice?]

/-- An export of a view that can be rendered asks and goes on with the answer. -/
theorem runBy_of_ok {bitmap : Bitmap} (drawn : (view.renderableBy rasterizer).rasterize = .ok bitmap) :
    runBy encoder (view.renderableBy rasterizer) prompt revealer disk =
      let answered := Pending.finishBy encoder ⟨bitmap, defaultPath disk⟩ (prompt (defaultPath disk))
        revealer disk
      { answered with asked := [defaultPath disk], notices := answered.outcome.notice?.toList } := by
  simp only [runBy, start, drawn]

theorem accountable_of_unrendered {error : RenderError}
    (failed : (view.renderableBy rasterizer).rasterize = .error error) :
    Accountable rasterizer encoder view prompt revealer disk
      (runBy encoder (view.renderableBy rasterizer) prompt revealer disk) := by
  have stopped (revealer : Revealer) : runBy encoder (view.renderableBy rasterizer) prompt revealer disk =
      { outcome := .failed (.render error), folders := [], disk, asked := [],
        notices := (Outcome.failed (.render error)).notice?.toList } := by
    simp only [runBy, start, failed]
  have unrendered (bitmap : Bitmap) : ¬view.Rendered rasterizer bitmap := by
    rw [← View.rasterize_eq_ok_iff, failed]
    exact nofun
  have notified := notified_runBy encoder prompt revealer disk (view.renderableBy rasterizer)
  rw [stopped] at notified ⊢
  exact {
    unrendered := fun _ => ⟨rfl, error, rfl⟩
    asked := fun bitmap rendered => absurd rendered (unrendered bitmap)
    fitting := fun expected actual same => View.rasterize_fits failed expected actual (by simpa using same)
    cancelled := by simp [unrendered]
    saved := by simp [unrendered, Outcome.isSaved]
    unchanged := fun _ => ⟨rfl, rfl⟩
    wrote := by simp
    independent := fun other => by rw [stopped other]; exact ⟨rfl, rfl, rfl⟩
    notified }

theorem accountable_of_rendered {bitmap : Bitmap}
    (drawn : (view.renderableBy rasterizer).rasterize = .ok bitmap) :
    Accountable rasterizer encoder view prompt revealer disk
      (runBy encoder (view.renderableBy rasterizer) prompt revealer disk) := by
  have rendered := View.rasterize_eq_ok_iff.mp drawn
  have only (other : Bitmap) : view.Rendered rasterizer other ↔ other = bitmap := by
    rw [← View.rasterize_eq_ok_iff, drawn, Except.ok.injEq, eq_comm]
  have notified := notified_runBy encoder prompt revealer disk (view.renderableBy rasterizer)
  have independent (other : Revealer) :
      let again := runBy encoder (view.renderableBy rasterizer) prompt other disk
      let report := runBy encoder (view.renderableBy rasterizer) prompt revealer disk
      again.disk = report.disk ∧ again.asked = report.asked ∧ again.folders = report.folders := by
    rw [runBy_of_ok rasterizer encoder view prompt other disk drawn,
      runBy_of_ok rasterizer encoder view prompt revealer disk drawn]
    obtain ⟨disks, folders⟩ := finishBy_independent encoder ⟨bitmap, defaultPath disk⟩
      (prompt (defaultPath disk)) revealer other disk
    exact ⟨disks, rfl, folders⟩
  rw [runBy_of_ok rasterizer encoder view prompt revealer disk drawn] at notified independent ⊢
  rcases finishBy_cases encoder ⟨bitmap, defaultPath disk⟩ (prompt (defaultPath disk)) revealer disk with
    ⟨answer, ended⟩ | ⟨choice, error, answer, refused, ended⟩ |
      ⟨choice, place, content, answer, encoded, takes, leads, ended⟩
  · rw [ended] at notified independent ⊢
    exact {
      unrendered := fun unrendered => absurd rendered (unrendered bitmap)
      asked := by simp
      fitting := by simp
      cancelled := by simp [only, answer]
      saved := by simp [answer, Outcome.isSaved]
      unchanged := fun _ => ⟨rfl, rfl⟩
      wrote := by simp
      independent
      notified }
  · rw [ended] at notified independent ⊢
    exact {
      unrendered := fun unrendered => absurd rendered (unrendered bitmap)
      asked := by simp
      fitting := by simp
      cancelled := by simp [answer]
      saved := by simpa [answer, Outcome.isSaved, only] using refused
      unchanged := fun _ => ⟨rfl, rfl⟩
      wrote := by simp
      independent
      notified }
  · rw [ended] at notified independent ⊢
    exact {
      unrendered := fun unrendered => absurd rendered (unrendered bitmap)
      asked := by simp
      fitting := by simp
      cancelled := by simp [answer]
      saved := by simp [answer, Outcome.isSaved, only, encoded, takes, Except.isOk, Except.toBool]
      unchanged := by simp [Outcome.isSaved]
      wrote := by
        rintro path revealed same
        cases same
        refine ⟨⟨choice, place, bitmap, content, answer, leads, rendered, encoded, rfl, fun other => ?_, rfl, ?_⟩,
          ?_, ?_⟩
        · exact Disk.get?_put (Disk.ne_nil_of_moveTarget leads) _
        · rintro rfl
          cases encoded
          rw [← rendered.size]
          apply Png.size?_encode
          · rw [rendered.size]
            exact View.pixels_lt _
          · rw [rendered.size]
            exact View.pixels_lt _
        · exact folders_reveal revealer _
        · exact revealed_reveal revealer _
      independent
      notified }

/-- Every export accounts for all it does. -/
theorem runBy_accountable : Accountable rasterizer encoder view prompt revealer disk
    (runBy encoder (view.renderableBy rasterizer) prompt revealer disk) := by
  cases drawn : (view.renderableBy rasterizer).rasterize with
  | ok bitmap => exact accountable_of_rendered rasterizer encoder view prompt revealer disk drawn
  | error error => exact accountable_of_unrendered rasterizer encoder view prompt revealer disk drawn

end Runs

end Export

end TreeInspector
