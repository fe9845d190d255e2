/-!
# Faults

Everything that can go wrong, as data, and the message each fault is reported with. A fault of a
text file does not carry the reader's position, only what kind of file it was.
-/

namespace SceneBatch

/-- Why a file could not be read. -/
inductive FileFault where
  | notFound
  | notADirectory
  | isADirectory
  | notText
  | described (text : String)
  deriving DecidableEq, Repr

namespace FileFault

/-- The words for a file fault. -/
def message : FileFault → String
  | notFound => "no such file or directory"
  | notADirectory => "not a directory"
  | isADirectory => "is a directory"
  | notText => "stream did not contain valid UTF-8"
  | described text => text

end FileFault

/-- What is wrong with a model file. -/
inductive ModelFlaw where
  | badContainer
  | notDocument
  | invalid
  | missingData
  deriving DecidableEq, Repr

namespace ModelFlaw

/-- The words for a flaw. -/
def message : ModelFlaw → String
  | badContainer => "the container is damaged"
  | notDocument => "not a glTF document"
  | invalid => "a reference leads nowhere"
  | missingData => "the data of a buffer is missing"

end ModelFlaw

/-- Why a model could not be imported. -/
inductive ImportFault where
  | notBinaryContainer (path : String)
  | badPath (path : String)
  | indexOutOfRange (model : String) (index vertices : Nat)
  | flawed (path : String) (flaw : ModelFlaw)
  | described (text : String)
  deriving DecidableEq, Repr

namespace ImportFault

/-- The words for an import fault. -/
def message : ImportFault → String
  | notBinaryContainer path => path ++ ": not a binary glTF container"
  | badPath path => "bad model path " ++ path
  | indexOutOfRange model index vertices =>
    s!"{model}: index {index} out of range for {vertices} vertices"
  | flawed path flaw => path ++ ": " ++ flaw.message
  | described text => text

end ImportFault

/-- The ways an operation fails. -/
inductive Fault where
  | file (cause : FileFault)
  | importing (cause : ImportFault)
  | unsupportedFormat (path : String)
  | noDefaultScene (model : String)
  | missingAttribute (model name : String)
  | unsupportedEncoding (model name : String)
  | modelNotFound (name : String)
  | animationNotFound (name : String)
  | entityNotFound (id : String)
  | duplicateEntityName (name : String)
  | config (text : String)
  | toml (text : String)
  | scene (text : String)
  | render (text : String)
  | capacityExceeded (buffer : String) (needed capacity : Nat)
  deriving DecidableEq, Repr

namespace Fault

/-- The message a fault is reported with. -/
def message : Fault → String
  | file cause => "IO error: " ++ cause.message
  | importing cause => "Import error: " ++ cause.message
  | unsupportedFormat path => "Unsupported model format: " ++ path
  | noDefaultScene model => s!"Model '{model}' has no default scene"
  | missingAttribute model name => s!"Missing vertex attribute {name} in {model}"
  | unsupportedEncoding model name =>
    s!"Unsupported component encoding for {name} in {model}"
  | modelNotFound name => "Model not found: " ++ name
  | animationNotFound name => "Animation not found: " ++ name
  | entityNotFound id => "Entity not found: " ++ id
  | duplicateEntityName name => "Duplicate entity name: " ++ name
  | config text => "Config error: " ++ text
  | toml text => "TOML parse error: " ++ text
  | scene text => "Scene error: " ++ text
  | render text => "Render error: " ++ text
  | capacityExceeded buffer needed capacity =>
    s!"{buffer} capacity exceeded: need {needed}, have {capacity}"

end Fault

end SceneBatch
