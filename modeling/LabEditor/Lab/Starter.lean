import LabEditor.Lab.Index

/-! The starter lab: one step with a check, an introduction and an end. -/
namespace LabEditor.Lab

/-- The files of a starter lab in the order of their making; a folder has no content. -/
def starterFiles : List (Text × Option Text) := [
  ("intro.md", some "\x7b\x7bh1\x7d\x7d Introduction\n\nWhat this lab covers."),
  ("setup.sh", some "#!/bin/bash\n"),
  ("step1", none),
  ("step1/text.md",
    some "\x7b\x7bh1\x7d\x7d Step 1\n\n\x7b\x7bexec\x7d\x7d\necho \"Hello KillerCoda!\""),
  ("step1/verify.sh", some "#!/bin/bash\nexit 0\n"),
  ("finish.md", some "\x7b\x7bh1\x7d\x7d Done\n\nYou finished the lab.")]

def defaultTitle : Text := "My Lab"
def defaultImage : Text := "ubuntu"

/-- Makes the given files where no record is yet; the answer is the paths of the new ones. -/
def addMissing : List (Text × Option Text) → Store → Except Refusal (Store × List Text)
  | [], store => .ok (store, [])
  | (path, content?) :: files, store =>
    if store.has path then addMissing files store
    else do
      let (store, _) ← store.create path content?.isNone (.str (content?.getD []))
      let (store, created) ← addMissing files store
      pure (store, path :: created)

/-- Adds a descriptor, if the lab has none. -/
def addIndex (store : Store) (title description image : Text) :
    Except Failure (Store × List Text) :=
  if store.has indexFile then .ok (store, [])
  else do
    let files ← Failure.ofFault (scanStore store)
    Failure.ofRefusal
      (addMissing [(indexFile, some (indexContent title description image files))] store)

/-- Makes a starter lab and its descriptor, and leaves records alone that are there already. What
was made stays there if the descriptor cannot be made. -/
def scaffold (store : Store) (title image : Text) : Store × Except Failure (List Text) :=
  match addMissing starterFiles store with
  | .error refusal => (store, .error (.refusal refusal))
  | .ok (started, created) =>
    match addIndex started title [] image with
    | .error failure => (started, .error failure)
    | .ok (described, index) => (described, .ok (created ++ index))

end LabEditor.Lab
