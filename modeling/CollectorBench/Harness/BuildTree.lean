import CollectorBench.Files.FilePath
/-! Where the benchmarker, its workloads and its results are. -/
namespace CollectorBench

inductive Catalog where
  | con
  | sys
  deriving DecidableEq, Repr

def Catalog.word : Catalog → String
  | .con => "con"
  | .sys => "sys"

structure BuildTree where
  root : FilePath
  buildName : String
  executableName : String
  libraryExtension : String
  deriving DecidableEq, Repr

namespace BuildTree

def unix (root : FilePath) : BuildTree :=
  { root, buildName := "build_ninja", executableName := "benchmarker", libraryExtension := ".so" }

def windows (root : FilePath) : BuildTree :=
  { root, buildName := "build", executableName := "benchmarker.exe", libraryExtension := ".dll" }

/-- The root that is asked for, else the one in the environment, else the working directory. -/
def resolve (asked environment : Option FilePath) (workingDirectory : FilePath) : BuildTree :=
  unix ((asked <|> environment).getD workingDirectory)

def buildDirectory (build : BuildTree) : FilePath :=
  build.root.join build.buildName

def executableDirectory (build : BuildTree) : FilePath :=
  (build.buildDirectory.join "src").join "benchmarker"

def executable (build : BuildTree) : FilePath :=
  build.executableDirectory.join build.executableName

def libraryDirectory (build : BuildTree) : FilePath :=
  (build.buildDirectory.join "test").join "benchmarks"

def resultsDirectory (build : BuildTree) : FilePath :=
  build.buildDirectory.join "CSVs"

def libraryMark (catalog : Catalog) : String :=
  "benchmarks-" ++ catalog.word ++ "-"

def libraryName (build : BuildTree) (catalog : Catalog) (workload : String) : String :=
  "lib" ++ libraryMark catalog ++ workload ++ build.libraryExtension

def library (build : BuildTree) (catalog : Catalog) (workload : String) : FilePath :=
  build.libraryDirectory.join (build.libraryName catalog workload)

end BuildTree

def comparisonImage (directory : FilePath) : FilePath :=
  directory.join "benchmark_comparison.png"

end CollectorBench
