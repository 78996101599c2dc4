import PromptPlan.Proofs.Settings.Layers

/-!
# Layers that are refused

There is one reason only why settings cannot be put together from layers: a file that exists is
refused, because it cannot be read, is no document of settings, or has one out of range. The
first such file gives the failure, and what comes after it is not looked at.

The outcome is checked once more in the end, and this check never fails. Every file that was put
on top had been checked, the defaults are in range, and merging keeps settings in range, however
many layers there are and in whatever order.
-/

namespace PromptPlan

namespace Settings

/-- The failure with which a file that exists is refused. -/
structure RefusedWith (file : String × FileContent) (e : Error) : Prop where
  isPresent : file.2.isPresent = true
  ofFile_eq : ofFile file.1 file.2 = .error e

theorem readable_of_not_isPresent {file : String × FileContent}
    (habsent : ¬file.2.isPresent = true) : Readable file := by
  obtain ⟨path, content⟩ := file
  cases content with
  | absent => exact ⟨{}, rfl⟩
  | unreadable reason => exact absurd rfl habsent
  | text content => exact absurd rfl habsent

theorem readable_iff_not_refused {file : String × FileContent} :
    Readable file ↔ ∀ e, ¬RefusedWith file e := by
  constructor
  · rintro ⟨s, hs⟩ e he
    have h := he.ofFile_eq
    rw [hs] at h
    cases h
  · intro hnone
    by_cases hpresent : file.2.isPresent = true
    · cases hread : ofFile file.1 file.2 with
      | ok s => exact ⟨s, hread⟩
      | error e => exact absurd ⟨hpresent, hread⟩ (hnone e)
    · exact readable_of_not_isPresent hpresent

theorem readable_of_overlay {s s' : Settings} {files : List (String × FileContent)}
    (h : overlay s files = .ok s') : ∀ file ∈ files, Readable file := by
  induction files generalizing s with
  | nil => exact nofun
  | cons file files ih =>
      obtain ⟨path, content⟩ := file
      rw [overlay] at h
      split at h
      case isTrue =>
        obtain ⟨later, hlater, hrest⟩ := exists_of_bind_eq_ok h
        exact List.forall_mem_cons.2 ⟨⟨later, hlater⟩, ih hrest⟩
      case isFalse habsent =>
        exact List.forall_mem_cons.2 ⟨readable_of_not_isPresent habsent, ih h⟩

theorem overlay_append_refused {s : Settings} {before after : List (String × FileContent)}
    {file : String × FileContent} {e : Error} (hs : s.check = .ok ())
    (hbefore : ∀ earlier ∈ before, Readable earlier) (hfile : RefusedWith file e) :
    overlay s (before ++ file :: after) = .error e := by
  obtain ⟨s', hs', -⟩ := exists_overlay hs hbefore
  obtain ⟨path, content⟩ := file
  rw [overlay_append, hs']
  show overlay s' ((path, content) :: after) = .error e
  rw [overlay, if_pos hfile.isPresent, hfile.ofFile_eq]
  rfl

theorem overlay_of_ofLayers {files : List (String × FileContent)} {s : Settings}
    (h : ofLayers files = .ok s) : overlay {} files = .ok s := by
  obtain ⟨s', hs', hchecked⟩ := exists_of_bind_eq_ok h
  obtain ⟨-, -, hsame⟩ := exists_of_bind_eq_ok hchecked
  cases hsame
  exact hs'

/-- Files of which none is refused give settings in range. -/
theorem exists_ofLayers {files : List (String × FileContent)}
    (hfiles : ∀ file ∈ files, ∀ e, ¬RefusedWith file e) :
    ∃ s, overlay {} files = .ok s ∧ s.check = .ok () ∧ ofLayers files = .ok s := by
  obtain ⟨s, hs, hcheck⟩ := exists_overlay check_default fun file hfile =>
    readable_iff_not_refused.2 (hfiles file hfile)
  exact ⟨s, hs, hcheck, ofLayers_of_overlay hs hcheck⟩

/-- Layers in range, any number of them, keep settings in range. -/
theorem check_foldl_merge {s : Settings} {layers : List Settings} (hs : s.check = .ok ())
    (hlayers : ∀ layer ∈ layers, layer.check = .ok ()) :
    (layers.foldl merge s).check = .ok () := by
  induction layers generalizing s with
  | nil => exact hs
  | cons layer layers ih =>
      rw [List.forall_mem_cons] at hlayers
      exact ih (check_merge hs hlayers.1) hlayers.2

/-- **Settings out of layers.** They are refused exactly if one of the files that exist is, and
with the failure of the first. Otherwise the layers put together are in range, and are what the
check of the outcome lets through; for the defaults under any layers in range are in range. -/
theorem ofLayers_of_any :
    (∀ files : List (String × FileContent),
      (∃ e, ofLayers files = .error e) ↔ ∃ file ∈ files, ∃ e, RefusedWith file e) ∧
      (∀ before file after e, (∀ earlier ∈ before, ∀ e', ¬RefusedWith earlier e') →
        RefusedWith file e → ofLayers (before ++ file :: after) = .error e) ∧
      (∀ files : List (String × FileContent), (∀ file ∈ files, ∀ e, ¬RefusedWith file e) →
        ∃ s, overlay {} files = .ok s ∧ s.check = .ok () ∧ ofLayers files = .ok s) ∧
      ∀ layers : List Settings, (∀ layer ∈ layers, layer.check = .ok ()) →
        (layers.foldl merge {}).check = .ok () := by
  refine ⟨fun files => ⟨?_, ?_⟩, ?_, fun _ => exists_ofLayers,
    fun _ => check_foldl_merge check_default⟩
  · rintro ⟨e, he⟩
    refine Classical.byContradiction fun hnone => ?_
    obtain ⟨s, -, -, hs⟩ := exists_ofLayers fun file hfile e' he' => hnone ⟨file, hfile, e', he'⟩
    rw [he] at hs
    cases hs
  · rintro ⟨file, hfile, e, he⟩
    cases hlayers : ofLayers files with
    | error e' => exact ⟨e', rfl⟩
    | ok s =>
        have hreadable := readable_of_overlay (overlay_of_ofLayers hlayers) file hfile
        exact absurd he (readable_iff_not_refused.1 hreadable e)
  · intro before file after e hbefore hfile
    rw [ofLayers, overlay_append_refused check_default
      (fun earlier hearlier => readable_iff_not_refused.2 (hbefore earlier hearlier)) hfile]
    rfl

end Settings

end PromptPlan
