import Stencil.Evaluation.Render
import Stencil.Files.Path
import Stencil.Template.Delimiters

/-!
# Configurations

What a generation is told before it starts: the entry template, the data file, the work folder
that other paths are seen from, the delimiters of templates, and how deep blocks may be nested.
-/

namespace Stencil

/-- The configuration of a generation. -/
structure Config where
  /-- The template whose text is the driving script. -/
  entry : Path
  /-- The file of the global data. -/
  data : Path
  /-- The folder that paths are seen from. -/
  work : Path
  /-- The folder that `~/` stands for. -/
  home : Path
  /-- The markers of templates. -/
  delimiters : Delimiters := .standard
  /-- How deep blocks may be nested. -/
  depthLimit : Nat := defaultDepthLimit

namespace Config

/-- A path as it is seen from the work folder. -/
def resolve (config : Config) (raw : String) : Path := Path.resolve config.home config.work raw

/-- Where the entry template is. -/
def entryPath (config : Config) : Path := config.resolve config.entry.text

/-- Where the data file is. -/
def dataPath (config : Config) : Path := config.resolve config.data.text

end Config

end Stencil
