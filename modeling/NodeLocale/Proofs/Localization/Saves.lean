import NodeLocale.Localization.Run
import NodeLocale.Proofs.Files.KeptPlaces

/-!
# Saving files in turn

While a run goes through its batches it calls its service and saves one file after another. A file
that was saved stays as it was saved, if no later one goes to its place, and places to which none
goes are kept. A service may do to the files what it likes, so each of these facts is about a
place that the service leaves alone.
-/

namespace NodeLocale

open FileTree

namespace LocalizationService

/-- Whether a service leaves alone what stands at a place, and where paths start. -/
structure Spares (service : LocalizationService) (place : Place) : Prop where
  workingDirectory : ∀ tree request,
    (service tree request).1.workingDirectory = tree.workingDirectory
  node? : ∀ tree request, (service tree request).1.node? place = tree.node? place

theorem spares_ofReplies (reply : LocalizationRequest → Except String ServiceReply)
    (place : Place) : (ofReplies reply).Spares place :=
  ⟨fun _ _ => rfl, fun _ _ => rfl⟩

/-- Whether a service removes no directory, and leaves alone where paths start. -/
def KeepsDirectories (service : LocalizationService) : Prop :=
  ∀ tree request, DirectoriesStand tree (service tree request).1

theorem keepsDirectories_ofReplies (reply : LocalizationRequest → Except String ServiceReply) :
    (ofReplies reply).KeepsDirectories :=
  fun tree _ => .refl tree

end LocalizationService

/-- Whether a tree comes about from another one by saving artifacts, one after another, while a
service is called in between. The list tells what was saved in which file. -/
inductive Saves (service : LocalizationService) (start : FileTree) :
    List (Path × String) → FileTree → Prop
  | none : Saves service start [] start
  | asked {saves : List (Path × String)} {tree : FileTree}
      (earlier : Saves service start saves tree) (request : LocalizationRequest) :
      Saves service start saves (service tree request).1
  | saved {saves : List (Path × String)} {tree after : FileTree} {path : Path} {text : String}
      (earlier : Saves service start saves tree) (artifact : path.IsArtifact)
      (done : Artifact.saveText tree path text = (after, .ok ())) :
      Saves service start (saves ++ [(path, text)]) after

namespace Saves

variable {service : LocalizationService} {start tree after : FileTree} {place : Place}
  {saves : List (Path × String)} {path : Path} {text : String}

theorem workingDirectory (spared : service.Spares place) (went : Saves service start saves tree) :
    tree.workingDirectory = start.workingDirectory := by
  induction went with
  | none => rfl
  | asked earlier request ih => rw [spared.workingDirectory, ih]
  | saved earlier artifact done ih =>
    rw [(Artifact.savedAs_of_saveText done).workingDirectory, ih]

/-- Places to which no file goes are kept. -/
theorem keptAt (spared : service.Spares place) (went : Saves service start saves tree)
    (elsewhere : ∀ save ∈ saves, place ≠ save.1.target start.workingDirectory) :
    KeptAt start tree place := by
  induction went with
  | none => exact .of_eq rfl
  | asked earlier request ih =>
    exact (ih elsewhere).trans (.of_eq (spared.node? _ request))
  | saved earlier artifact done ih =>
    simp only [List.forall_mem_append, List.forall_mem_singleton] at elsewhere
    rcases elsewhere with ⟨elsewhereBefore, different⟩
    rw [← earlier.workingDirectory spared] at different
    exact (ih elsewhereBefore).trans
      ((Artifact.savedAs_of_saveText done).keptAt different)

/-- Places that are not on the way to any file either stay as they are. -/
theorem node?_eq (spared : service.Spares place) (went : Saves service start saves tree)
    (elsewhere : ∀ save ∈ saves, place ≠ save.1.target start.workingDirectory ∧
      ∀ directory, save.1.OnWay directory → place ≠ directory.target start.workingDirectory) :
    tree.node? place = start.node? place := by
  induction went with
  | none => rfl
  | asked earlier request ih => rw [spared.node?, ih elsewhere]
  | @saved saves before after path text earlier artifact done ih =>
    simp only [List.forall_mem_append, List.forall_mem_singleton] at elsewhere
    rcases elsewhere with ⟨elsewhereBefore, different, outside⟩
    rw [← earlier.workingDirectory spared] at different outside
    have same := Artifact.node?_saveText text different outside
    rw [done] at same
    rw [same, ih elsewhereBefore]

/-- A file stays as it was saved if no later one goes to its place. -/
theorem content?_eq (spared : service.Spares (path.target start.workingDirectory))
    (distinct : (saves.map fun save => save.1.target start.workingDirectory).Nodup)
    (went : Saves service start saves tree) (member : (path, text) ∈ saves) :
    tree.content? path = some text.toUTF8 := by
  induction went with
  | none => simp at member
  | asked earlier request ih =>
    have standing := ih distinct member
    rw [content?_eq_some_iff, earlier.workingDirectory spared] at standing
    rw [content?_eq_some_iff, spared.workingDirectory, earlier.workingDirectory spared,
      spared.node?, standing]
  | @saved saves before after other otherText earlier artifact done ih =>
    have savedAs := Artifact.savedAs_of_saveText done
    rw [List.map_append, List.nodup_append] at distinct
    rcases distinct with ⟨distinctBefore, -, different⟩
    rcases List.mem_append.1 member with older | last
    · have notSame := different _ (List.mem_map_of_mem older) _
        (List.mem_map_of_mem (List.mem_singleton_self _))
      rw [← earlier.workingDirectory spared] at notSame
      rw [(savedAs.keptAt notSame).content?_eq savedAs.workingDirectory]
      exact ih distinctBefore older
    · rw [List.mem_singleton, Prod.mk.injEq] at last
      rcases last with ⟨rfl, rfl⟩
      exact savedAs.content? artifact.unseparated

/-- Directories stay. -/
theorem directoriesStand (keeps : service.KeepsDirectories)
    (went : Saves service start saves tree) : DirectoriesStand start tree := by
  induction went with
  | none => exact .refl start
  | asked earlier request ih => exact ih.trans (keeps _ request)
  | saved earlier artifact done ih =>
    exact ih.trans (Artifact.savedAs_of_saveText done).directoriesStand

end Saves

end NodeLocale
