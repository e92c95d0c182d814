import Mathlib.Data.List.Forall2
import PeeringAgent.Settings

/-!
# Secrets in files

A connection that names a secret file has the text of this file for its token, without the
white space around it and whatever secret it has beside. The files are read in the order of
the connections, and the first that cannot be read is the last one that is tried.
-/

set_option autoImplicit false

namespace PeeringAgent

namespace Files

variable (files : Files Id)

/-- The same files with an account of those that have been read, in order. -/
def watched : Files (StateM (List String)) where
  read path := do
    modify (· ++ [path])
    return files.read path
  isFile path := return files.isFile path
  depth := files.depth

def Readable (path : String) : Prop := ∃ text, files.readText path = .ok text

/-- The files that are read of some that are wanted one after the other. -/
def tried : List String → List String
  | [] => []
  | path :: paths =>
    match files.readText path with
    | .ok _ => path :: tried paths
    | .error _ => [path]

theorem tried_of_readable {paths : List String} (readable : ∀ path ∈ paths, files.Readable path) :
    files.tried paths = paths := by
  induction paths with
  | nil => rfl
  | cons path paths ih =>
    obtain ⟨text, read⟩ := readable path List.mem_cons_self
    rw [tried, read]
    dsimp only
    rw [ih fun path among => readable path (List.mem_cons_of_mem _ among)]

theorem tried_of_unreadable {front back : List String} {path : String} {cause : IoError}
    (readable : ∀ path ∈ front, files.Readable path)
    (unreadable : files.readText path = .error cause) :
    files.tried (front ++ path :: back) = front ++ [path] := by
  induction front with
  | nil => rw [List.nil_append, tried, unreadable, List.nil_append]
  | cons first front ih =>
    obtain ⟨text, read⟩ := readable first List.mem_cons_self
    rw [List.cons_append, tried, read]
    dsimp only
    rw [ih fun path among => readable path (List.mem_cons_of_mem _ among), List.cons_append]

theorem run_readText (path : String) (log : List String) :
    (files.watched.readText path).run log = (files.readText path, log ++ [path]) := rfl

theorem run_firstFile (paths log : List String) :
    (files.watched.firstFile paths).run log = (files.firstFile paths, log) := by
  induction paths with
  | nil => rfl
  | cons path paths ih =>
    have asked : (files.watched.isFile path).run log = (files.isFile path, log) := rfl
    rw [firstFile, firstFile, StateT.run_bind, asked]
    cases (files.isFile path : Bool) with
    | false => exact ih
    | true => rfl

theorem run_locate (path : String) (log : List String) :
    (files.watched.locate path).run log = (files.locate path, log) :=
  run_firstFile files _ log

end Files

namespace Settings

variable (files : Files Id)

theorem fileLayer_eq (path : String) : fileLayer files path =
    match (files.locate path : Option String) with
    | none => some (.dict [])
    | some place =>
      match (files.readText place : Except IoError String) with
      | .error _ => none
      | .ok text => layerOfText? text := rfl

theorem run_fileLayer (path : String) (log : List String) :
    (fileLayer files.watched path).run log =
      (fileLayer files path, log ++ (files.locate path : Option String).toList) := by
  rw [fileLayer_eq, fileLayer, StateT.run_bind, Files.run_locate]
  cases (files.locate path : Option String) with
  | none => exact Prod.ext rfl (List.append_nil log).symm
  | some place =>
    show ((files.watched.readText place) >>= _).run log = _
    rw [StateT.run_bind, Files.run_readText]
    dsimp only
    cases (files.readText place : Except IoError String) with
    | error cause => rfl
    | ok text => rfl

theorem run_withSecret (c : Connection) (log : List String) :
    (Connection.withSecret files.watched c).run log =
      (Connection.withSecret files c, log ++ c.secretFile.toList) := by
  cases named : c.secretFile with
  | none =>
    simp only [Connection.withSecret, named]
    exact Prod.ext rfl (List.append_nil log).symm
  | some path =>
    simp only [Connection.withSecret, named, StateT.run_bind, Files.run_readText]
    cases (files.readText path : Except IoError String) with
    | error cause => rfl
    | ok text => rfl

/-- The secret files that connections name, in their order. -/
def secretFiles (connections : List Connection) : List String :=
  connections.filterMap Connection.secretFile

theorem withSecret_of_none {c : Connection} (unnamed : c.secretFile = none) :
    Connection.withSecret files c = .ok c := by
  rw [Connection.withSecret, unnamed]
  rfl

theorem withSecret_of_readable {c : Connection} {path text : String}
    (named : c.secretFile = some path) (read : files.readText path = .ok text) :
    Connection.withSecret files c =
      .ok { c with secret := String.ofList (Text.trim text.toList) } := by
  simp only [Connection.withSecret, named, read]
  rfl

theorem withSecret_of_unreadable {c : Connection} {path : String} {cause : IoError}
    (named : c.secretFile = some path) (unreadable : files.readText path = .error cause) :
    Connection.withSecret files c = .error (.secret path cause) := by
  simp only [Connection.withSecret, named, unreadable]
  rfl

theorem withSecrets_cons (c : Connection) (connections : List Connection) :
    withSecrets files (c :: connections) =
      match (Connection.withSecret files c : Except LoadError Connection) with
      | .error e => .error e
      | .ok c =>
        match (withSecrets files connections : Except LoadError (List Connection)) with
        | .error e => .error e
        | .ok connections => .ok (c :: connections) := rfl

theorem secretFiles_cons_of_none {c : Connection} (unnamed : c.secretFile = none)
    (connections : List Connection) :
    secretFiles (c :: connections) = secretFiles connections := by
  rw [secretFiles, List.filterMap_cons_none unnamed]
  rfl

theorem secretFiles_cons_of_some {c : Connection} {path : String}
    (named : c.secretFile = some path) (connections : List Connection) :
    secretFiles (c :: connections) = path :: secretFiles connections := by
  rw [secretFiles, List.filterMap_cons_some named]
  rfl

theorem run_withSecrets (connections : List Connection) (log : List String) :
    (withSecrets files.watched connections).run log =
      (withSecrets files connections, log ++ files.tried (secretFiles connections)) := by
  induction connections generalizing log with
  | nil => exact Prod.ext rfl (List.append_nil log).symm
  | cons c connections ih =>
    -- What is left to do once the first connection has its secret.
    have rest (first : Connection) (read : List String)
        (secret : Connection.withSecret files c = .ok first) (own : c.secretFile.toList = read)
        (tried : files.tried (secretFiles (c :: connections)) =
          read ++ files.tried (secretFiles connections)) :
        (withSecrets files.watched (c :: connections)).run log =
          (withSecrets files (c :: connections),
            log ++ files.tried (secretFiles (c :: connections))) := by
      rw [withSecrets_cons, withSecrets, StateT.run_bind, run_withSecret, secret, own, tried]
      show ((withSecrets files.watched connections) >>= _).run (log ++ read) = _
      rw [StateT.run_bind, ih, List.append_assoc]
      dsimp only
      cases (withSecrets files connections : Except LoadError (List Connection)) with
      | error e => rfl
      | ok connections => rfl
    cases named : c.secretFile with
    | none =>
      refine rest c [] (withSecret_of_none files named) (by rw [named]; rfl) ?_
      rw [secretFiles_cons_of_none named, List.nil_append]
    | some path =>
      cases read : (files.readText path : Except IoError String) with
      | ok text =>
        refine rest _ [path] (withSecret_of_readable files named read) (by rw [named]; rfl) ?_
        rw [secretFiles_cons_of_some named, Files.tried, read]
        rfl
      | error cause =>
        rw [withSecrets_cons, withSecrets, StateT.run_bind, run_withSecret,
          withSecret_of_unreadable files named read, secretFiles_cons_of_some named, Files.tried,
          read, named]
        rfl

end Settings

/-- A connection before and after its secret file is read. -/
structure Connection.Secured (files : Files Id) (c d : Connection) : Prop where
  file : ∀ path, c.secretFile = some path → ∃ text, files.readText path = .ok text ∧
    d.secret = String.ofList (Text.trim text.toList)
  inline : c.secretFile = none → d.secret = c.secret
  rest : { d with secret := c.secret } = c

namespace Settings

variable {files : Files Id}

theorem withSecrets_of_readable {connections : List Connection}
    (readable : ∀ path ∈ secretFiles connections, files.Readable path) :
    ∃ secured, withSecrets files connections = .ok secured ∧
      List.Forall₂ (Connection.Secured files) connections secured := by
  induction connections with
  | nil => exact ⟨[], rfl, .nil⟩
  | cons c connections ih =>
    cases named : c.secretFile with
    | none =>
      rw [secretFiles_cons_of_none named] at readable
      obtain ⟨secured, made, each⟩ := ih readable
      refine ⟨c :: secured, ?_, .cons ⟨?_, fun _ => rfl, rfl⟩ each⟩
      · rw [withSecrets_cons, withSecret_of_none files named, made]
      · intro path other
        rw [named] at other
        cases other
    | some path =>
      rw [secretFiles_cons_of_some named, List.forall_mem_cons] at readable
      obtain ⟨⟨text, read⟩, readable⟩ := readable
      obtain ⟨secured, made, each⟩ := ih readable
      refine ⟨{ c with secret := String.ofList (Text.trim text.toList) } :: secured, ?_,
        .cons ⟨?_, ?_, rfl⟩ each⟩
      · rw [withSecrets_cons, withSecret_of_readable files named read, made]
      · intro other same
        rw [named] at same
        cases same
        exact ⟨text, read, rfl⟩
      · intro unnamed
        rw [named] at unnamed
        cases unnamed

theorem withSecrets_of_unreadable {connections : List Connection} {front back : List String}
    {path : String} {cause : IoError}
    (place : secretFiles connections = front ++ path :: back)
    (readable : ∀ path ∈ front, files.Readable path)
    (unreadable : files.readText path = .error cause) :
    withSecrets files connections = .error (.secret path cause) := by
  induction connections generalizing front with
  | nil => simp [secretFiles] at place
  | cons c connections ih =>
    cases named : c.secretFile with
    | none =>
      rw [secretFiles_cons_of_none named] at place
      rw [withSecrets_cons, withSecret_of_none files named, ih place readable]
    | some first =>
      rw [secretFiles_cons_of_some named] at place
      cases front with
      | nil =>
        obtain ⟨rfl, -⟩ := List.cons.inj place
        rw [withSecrets_cons, withSecret_of_unreadable files named unreadable]
      | cons other front =>
        obtain ⟨rfl, later⟩ := List.cons.inj place
        obtain ⟨⟨text, read⟩, readable⟩ := List.forall_mem_cons.mp readable
        rw [withSecrets_cons, withSecret_of_readable files named read, ih later readable]

end Settings

end PeeringAgent
