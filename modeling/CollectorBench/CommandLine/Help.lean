/-! The text that explains the command line. -/
namespace CollectorBench.CommandLine

def help : String :=
  "Usage: gcbench [options] [--sys] [runs] [warmup_runs] <test_name|csv_file> [args...]\n" ++
  "       gcbench [options] --csv <name_fragment>\n" ++
  "\n" ++
  "runs and warmup_runs are unsigned 64-bit counts.\n" ++
  "\n" ++
  "Options (before the test name):\n" ++
  "  --layout bars|box   per-run panels as grouped bars (default) or box plots\n" ++
  "  --strict            fail when the benchmarker exits unsuccessfully\n" ++
  "  --strict-labels     match trace/arena/rc as whole name tokens only\n" ++
  "  --summary           print a JSON summary instead of drawing the chart\n" ++
  "  --root <dir>        project root holding the build tree (or GCBENCH_ROOT)\n" ++
  "  -v, --verbose       debug logging\n"

end CollectorBench.CommandLine
