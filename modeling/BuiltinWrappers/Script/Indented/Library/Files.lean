/-!
# Work on files

Copying and finding files, files without a lasting name, and channels.
-/

namespace BuiltinWrappers.Script.Indented.Library

def channels : String := r#"
  |from _io import StringIO, BytesIO, TextIOWrapper, IOBase, RawIOBase, BufferedIOBase, TextIOBase
  |from _io import BufferedReader, BufferedWriter, BufferedRandom, FileIO, UnsupportedOperation
  |import builtins
  |open = builtins.open
  |open_code = lambda path: builtins.open(path, 'rb')
  |SEEK_SET, SEEK_CUR, SEEK_END = 0, 1, 2
  |DEFAULT_BUFFER_SIZE = 8192
  |BlockingIOError = BlockingIOError
  |
  |def text_encoding(encoding, stacklevel=2):
  |    return 'locale' if encoding is None else encoding"#

/-- Copying, moving and removing files and trees. -/
def fileWork : String := r#"
  |import os
  |import stat
  |import fnmatch
  |COPY_BUFSIZE = 65536
  |
  |class Error(OSError):
  |    pass
  |
  |class SameFileError(Error):
  |    pass
  |
  |class SpecialFileError(OSError):
  |    pass
  |
  |class ExecError(OSError):
  |    pass
  |
  |class ReadError(OSError):
  |    pass
  |
  |class RegistryError(Exception):
  |    pass
  |
  |def copyfileobj(fsrc, fdst, length=0):
  |    while True:
  |        buf = fsrc.read(length or COPY_BUFSIZE)
  |        if not buf:
  |            break
  |        fdst.write(buf)
  |
  |def _samefile(src, dst):
  |    try:
  |        return os.path.samefile(src, dst)
  |    except OSError:
  |        return False
  |
  |def copyfile(src, dst, *, follow_symlinks=True):
  |    if _samefile(src, dst):
  |        raise SameFileError('%r and %r are the same file' % (src, dst))
  |    if not follow_symlinks and os.path.islink(src):
  |        os.symlink(os.readlink(src), dst)
  |        return dst
  |    with open(src, 'rb') as fsrc:
  |        try:
  |            with open(dst, 'wb') as fdst:
  |                copyfileobj(fsrc, fdst)
  |        except IsADirectoryError as e:
  |            if not os.path.exists(dst):
  |                raise FileNotFoundError('Directory does not exist: %s' % dst) from e
  |            raise
  |    return dst
  |
  |def copymode(src, dst, *, follow_symlinks=True):
  |    if not follow_symlinks and os.path.islink(src) and os.path.islink(dst):
  |        return
  |    os.chmod(dst, stat.S_IMODE(os.stat(src).st_mode))
  |
  |def copystat(src, dst, *, follow_symlinks=True):
  |    copymode(src, dst, follow_symlinks=follow_symlinks)
  |
  |def copy(src, dst, *, follow_symlinks=True):
  |    if os.path.isdir(dst):
  |        dst = os.path.join(dst, os.path.basename(src))
  |    copyfile(src, dst, follow_symlinks=follow_symlinks)
  |    copymode(src, dst, follow_symlinks=follow_symlinks)
  |    return dst
  |
  |copy2 = copy
  |
  |def ignore_patterns(*patterns):
  |    def _ignore_patterns(path, names):
  |        ignored = []
  |        for pattern in patterns:
  |            ignored.extend(fnmatch.filter(names, pattern))
  |        return set(ignored)
  |    return _ignore_patterns
  |
  |def copytree(src, dst, symlinks=False, ignore=None, copy_function=copy2,
  |             ignore_dangling_symlinks=False, dirs_exist_ok=False):
  |    names = os.listdir(src)
  |    ignored = ignore(os.fspath(src), names) if ignore is not None else ()
  |    os.makedirs(dst, exist_ok=dirs_exist_ok)
  |    errors = []
  |    for name in names:
  |        if name in ignored:
  |            continue
  |        srcname = os.path.join(src, name)
  |        dstname = os.path.join(dst, name)
  |        try:
  |            if os.path.islink(srcname) and symlinks:
  |                os.symlink(os.readlink(srcname), dstname)
  |            elif os.path.isdir(srcname):
  |                copytree(srcname, dstname, symlinks, ignore, copy_function,
  |                         ignore_dangling_symlinks, dirs_exist_ok)
  |            else:
  |                if not os.path.exists(srcname) and ignore_dangling_symlinks:
  |                    continue
  |                copy_function(srcname, dstname)
  |        except Error as err:
  |            errors.extend(err.args[0])
  |        except OSError as why:
  |            errors.append((srcname, dstname, str(why)))
  |    try:
  |        copystat(src, dst)
  |    except OSError as why:
  |        errors.append((src, dst, str(why)))
  |    if errors:
  |        raise Error(errors)
  |    return dst
  |
  |def rmtree(path, ignore_errors=False, onerror=None, *, onexc=None, dir_fd=None):
  |    import sys
  |    if ignore_errors:
  |        def failed(function, path, error):
  |            pass
  |    elif onerror is not None:
  |        def failed(function, path, error):
  |            onerror(function, path, sys.exc_info())
  |    elif onexc is not None:
  |        failed = onexc
  |    else:
  |        def failed(function, path, error):
  |            raise error
  |    try:
  |        st = os.lstat(path)
  |    except OSError as error:
  |        failed(os.lstat, path, error)
  |        return
  |    if stat.S_ISLNK(st.st_mode):
  |        failed(os.path.islink, path, OSError('Cannot call rmtree on a symbolic link'))
  |        return
  |    _rmtree(path, failed)
  |
  |def _rmtree(path, failed):
  |    try:
  |        names = os.listdir(path)
  |    except OSError as error:
  |        failed(os.scandir, path, error)
  |        return
  |    for name in names:
  |        full = os.path.join(path, name)
  |        if os.path.isdir(full) and not os.path.islink(full):
  |            _rmtree(full, failed)
  |        else:
  |            try:
  |                os.unlink(full)
  |            except OSError as error:
  |                failed(os.unlink, full, error)
  |    try:
  |        os.rmdir(path)
  |    except OSError as error:
  |        failed(os.rmdir, path, error)
  |
  |def move(src, dst, copy_function=copy2):
  |    real_dst = dst
  |    if os.path.isdir(dst):
  |        if _samefile(src, dst):
  |            os.rename(src, dst)
  |            return
  |        real_dst = os.path.join(dst, os.path.basename(os.fspath(src).rstrip('/')))
  |        if os.path.exists(real_dst):
  |            raise Error("Destination path '%s' already exists" % real_dst)
  |    try:
  |        os.rename(src, real_dst)
  |    except FileNotFoundError:
  |        if os.path.lexists(src):
  |            raise
  |        copy_function(src, real_dst)
  |    except OSError:
  |        if os.path.isdir(src):
  |            if (os.path.abspath(real_dst) + '/').startswith(os.path.abspath(src) + '/'):
  |                raise Error("Cannot move a directory '%s' into itself '%s'." % (src, dst))
  |        raise
  |    return real_dst
  |
  |class _usage(tuple):
  |    total = property(lambda self: self[0])
  |    used = property(lambda self: self[1])
  |    free = property(lambda self: self[2])
  |
  |def disk_usage(path):
  |    os.stat(path)
  |    return _usage((100000000000, 50000000000, 50000000000))
  |
  |def chown(path, user=None, group=None):
  |    os.stat(path)
  |
  |def which(cmd, mode=os.F_OK | os.X_OK, path=None):
  |    cmd = os.fspath(cmd)
  |    def fits(place):
  |        return os.path.exists(place) and os.access(place, mode) and not os.path.isdir(place)
  |    if os.path.dirname(cmd):
  |        return cmd if fits(cmd) else None
  |    if path is None:
  |        path = os.environ.get('PATH', os.defpath)
  |    if not path:
  |        return None
  |    for directory in path.split(os.pathsep):
  |        place = os.path.join(directory, cmd)
  |        if fits(place):
  |            return place
  |    return None
  |
  |def get_terminal_size(fallback=(80, 24)):
  |    try:
  |        columns = int(os.environ['COLUMNS'])
  |    except (KeyError, ValueError):
  |        columns = 0
  |    try:
  |        lines = int(os.environ['LINES'])
  |    except (KeyError, ValueError):
  |        lines = 0
  |    return os.terminal_size((columns or fallback[0], lines or fallback[1]))"#

/-- Patterns of names. -/
def namePatterns : String := r#"
  |import re
  |import posixpath
  |
  |def fnmatch(name, pat):
  |    return fnmatchcase(name, pat)
  |
  |def fnmatchcase(name, pat):
  |    return re.compile(translate(pat)).match(name) is not None
  |
  |def filter(names, pat):
  |    match = re.compile(translate(pat)).match
  |    return [name for name in names if match(name) is not None]
  |
  |def translate(pat):
  |    found = ''
  |    i = 0
  |    n = len(pat)
  |    while i < n:
  |        c = pat[i]
  |        i += 1
  |        if c == '*':
  |            if not found.endswith('.*'):
  |                found += '.*'
  |        elif c == '?':
  |            found += '.'
  |        elif c == '[':
  |            j = i
  |            if j < n and pat[j] == '!':
  |                j += 1
  |            if j < n and pat[j] == ']':
  |                j += 1
  |            while j < n and pat[j] != ']':
  |                j += 1
  |            if j >= n:
  |                found += '\\['
  |            else:
  |                stuff = pat[i:j].replace('\\', '\\\\')
  |                i = j + 1
  |                if not stuff:
  |                    found += '(?!)'
  |                elif stuff == '!':
  |                    found += '.'
  |                else:
  |                    if stuff[0] == '!':
  |                        stuff = '^' + stuff[1:]
  |                    elif stuff[0] in ('^', '['):
  |                        stuff = '\\' + stuff
  |                    found += '[' + stuff + ']'
  |        else:
  |            found += re.escape(c)
  |    return '(?s:' + found + ')\\Z'"#

/-- Files whose names fit a pattern. -/
def nameSearch : String := r#"
  |import os
  |import fnmatch
  |
  |def escape(pathname):
  |    return ''.join('[' + c + ']' if c in '*?[' else c for c in pathname)
  |
  |def has_magic(s):
  |    return '*' in s or '?' in s or '[' in s
  |
  |def glob(pathname, *, root_dir=None, dir_fd=None, recursive=False, include_hidden=False):
  |    return list(iglob(pathname, root_dir=root_dir, recursive=recursive,
  |                      include_hidden=include_hidden))
  |
  |def iglob(pathname, *, root_dir=None, dir_fd=None, recursive=False, include_hidden=False):
  |    root = os.fspath(root_dir) if root_dir is not None else pathname[:0]
  |    found = _iglob(os.fspath(pathname), root, recursive, False, include_hidden)
  |    first = True
  |    for path in found:
  |        if first and (not pathname or recursive and pathname[:2] == '**') and not path:
  |            first = False
  |            continue
  |        first = False
  |        yield path
  |
  |def _iglob(pathname, root_dir, recursive, dironly, hidden):
  |    dirname, basename = os.path.split(pathname)
  |    if not has_magic(pathname):
  |        if basename:
  |            if os.path.lexists(os.path.join(root_dir, pathname)):
  |                yield pathname
  |        elif os.path.isdir(os.path.join(root_dir, dirname)):
  |            yield pathname
  |        return
  |    if not dirname:
  |        if recursive and basename == '**':
  |            yield from _glob2(root_dir, basename, dironly, hidden)
  |        else:
  |            yield from _glob1(root_dir, basename, dironly, hidden)
  |        return
  |    if dirname != pathname and has_magic(dirname):
  |        dirs = _iglob(dirname, root_dir, recursive, True, hidden)
  |    else:
  |        dirs = [dirname]
  |    if has_magic(basename):
  |        inner = _glob2 if recursive and basename == '**' else _glob1
  |    else:
  |        inner = _glob0
  |    for dirname in dirs:
  |        for name in inner(os.path.join(root_dir, dirname), basename, dironly, hidden):
  |            yield os.path.join(dirname, name)
  |
  |def _glob1(dirname, pattern, dironly, hidden):
  |    names = _names(dirname, dironly)
  |    if not (hidden or pattern[0] == '.'):
  |        names = [name for name in names if name[0] != '.']
  |    return fnmatch.filter(names, pattern)
  |
  |def _glob0(dirname, basename, dironly, hidden):
  |    if basename:
  |        if os.path.lexists(os.path.join(dirname, basename)):
  |            return [basename]
  |    elif os.path.isdir(dirname):
  |        return [basename]
  |    return []
  |
  |def _glob2(dirname, pattern, dironly, hidden):
  |    if not dirname or os.path.isdir(dirname):
  |        yield pattern[:0]
  |    yield from _rlistdir(dirname, dironly, hidden)
  |
  |def _names(dirname, dironly):
  |    try:
  |        names = os.listdir(dirname or '.')
  |    except OSError:
  |        return []
  |    if dironly:
  |        return [name for name in names if os.path.isdir(os.path.join(dirname, name))]
  |    return names
  |
  |def _rlistdir(dirname, dironly, hidden):
  |    for name in _names(dirname, dironly):
  |        if hidden or name[0] != '.':
  |            yield name
  |            path = os.path.join(dirname, name) if dirname else name
  |            if os.path.isdir(path):
  |                for other in _rlistdir(path, dironly, hidden):
  |                    yield os.path.join(name, other)"#

/-- Files and directories for a short time. -/
def passingFiles : String := r#"
  |import os
  |import io as _io
  |import shutil as _shutil
  |TMP_MAX = 10000
  |template = 'tmp'
  |tempdir = None
  |
  |class _Names:
  |    letters = 'abcdefghijklmnopqrstuvwxyz0123456789_'
  |    def __iter__(self):
  |        return self
  |    def __next__(self):
  |        return ''.join(self.letters[b % 37] for b in os.urandom(8))
  |
  |_names = _Names()
  |
  |def gettempdir():
  |    global tempdir
  |    if tempdir is None:
  |        for name in ('TMPDIR', 'TEMP', 'TMP'):
  |            if os.environ.get(name):
  |                tempdir = os.path.abspath(os.environ[name])
  |                break
  |        else:
  |            tempdir = '/tmp'
  |    return tempdir
  |
  |def gettempprefix():
  |    return template
  |
  |def _affixes(suffix, prefix, directory):
  |    if suffix is None:
  |        suffix = ''
  |    if prefix is None:
  |        prefix = template
  |    if directory is None:
  |        directory = gettempdir()
  |    return suffix, prefix, os.path.abspath(directory)
  |
  |def mkstemp(suffix=None, prefix=None, dir=None, text=False):
  |    suffix, prefix, directory = _affixes(suffix, prefix, dir)
  |    for name in _names:
  |        path = os.path.join(directory, prefix + name + suffix)
  |        try:
  |            fd = os.open(path, os.O_RDWR | os.O_CREAT | os.O_EXCL, 0o600)
  |        except FileExistsError:
  |            continue
  |        return fd, path
  |
  |def mkdtemp(suffix=None, prefix=None, dir=None):
  |    suffix, prefix, directory = _affixes(suffix, prefix, dir)
  |    for name in _names:
  |        path = os.path.join(directory, prefix + name + suffix)
  |        try:
  |            os.mkdir(path, 0o700)
  |        except FileExistsError:
  |            continue
  |        return path
  |
  |def mktemp(suffix='', prefix=template, dir=None):
  |    if dir is None:
  |        dir = gettempdir()
  |    for name in _names:
  |        path = os.path.join(dir, prefix + name + suffix)
  |        if not os.path.lexists(path):
  |            return path
  |
  |class _TemporaryFile:
  |    def __init__(self, file, name, delete):
  |        self.file = file
  |        self.name = name
  |        self.delete = delete
  |    def __getattr__(self, name):
  |        return getattr(self.file, name)
  |    def __enter__(self):
  |        return self
  |    def __exit__(self, *args):
  |        self.close()
  |    def __iter__(self):
  |        for line in self.file:
  |            yield line
  |    def close(self):
  |        if not self.file.closed:
  |            self.file.close()
  |            if self.delete and self.name is not None:
  |                try:
  |                    os.unlink(self.name)
  |                except FileNotFoundError:
  |                    pass
  |
  |_open = []
  |
  |def NamedTemporaryFile(mode='w+b', buffering=-1, encoding=None, newline=None, suffix=None,
  |                       prefix=None, dir=None, delete=True, *, errors=None,
  |                       delete_on_close=True):
  |    fd, name = mkstemp(suffix, prefix, dir)
  |    file = open(fd, mode, buffering, encoding=encoding, newline=newline, errors=errors)
  |    found = _TemporaryFile(file, name, delete)
  |    if delete:
  |        if not _open:
  |            import atexit
  |            atexit.register(_closeall)
  |        _open.append(found)
  |    return found
  |
  |def _closeall():
  |    for found in _open:
  |        found.close()
  |
  |def TemporaryFile(mode='w+b', buffering=-1, encoding=None, newline=None, suffix=None,
  |                  prefix=None, dir=None, *, errors=None):
  |    if 'b' in mode:
  |        return _io.BytesIO()
  |    return _io.StringIO(newline=newline)
  |
  |class SpooledTemporaryFile:
  |    def __init__(self, max_size=0, mode='w+b', **rest):
  |        self._file = TemporaryFile(mode)
  |    def __getattr__(self, name):
  |        return getattr(self._file, name)
  |    def __iter__(self):
  |        return iter(self._file)
  |    def __enter__(self):
  |        return self
  |    def __exit__(self, *args):
  |        self._file.close()
  |
  |class TemporaryDirectory:
  |    def __init__(self, suffix=None, prefix=None, dir=None, ignore_cleanup_errors=False, *,
  |                 delete=True):
  |        self.name = mkdtemp(suffix, prefix, dir)
  |        if not _open:
  |            import atexit
  |            atexit.register(_closeall)
  |        _open.append(self)
  |    def __repr__(self):
  |        return '<TemporaryDirectory %r>' % self.name
  |    def __enter__(self):
  |        return self.name
  |    def __exit__(self, *args):
  |        self.cleanup()
  |    def cleanup(self):
  |        _shutil.rmtree(self.name, ignore_errors=True)
  |    close = cleanup"#

/-- Paths as objects. -/
def pathObjects : String := r#"
  |import errno as _errno
  |import fnmatch
  |import io
  |import os
  |import posixpath
  |import re
  |from stat import S_ISBLK, S_ISCHR, S_ISDIR, S_ISFIFO, S_ISLNK, S_ISREG, S_ISSOCK
  |
  |def _same(error):
  |    return getattr(error, 'errno', None) in (_errno.ENOENT, _errno.ENOTDIR, _errno.EBADF,
  |                                             _errno.ELOOP)
  |
  |def _split(text):
  |    root = ''
  |    if text[:1] == '/':
  |        root = '//' if text[:2] == '//' and text[:3] != '///' else '/'
  |    return root, [part for part in text.split('/') if part and part != '.']
  |
  |class _Parents:
  |    def __init__(self, path):
  |        self._path = path
  |    def __len__(self):
  |        return len(self._path._tail)
  |    def __getitem__(self, index):
  |        if isinstance(index, slice):
  |            return tuple(self[i] for i in range(*index.indices(len(self))))
  |        if index >= len(self) or index < -len(self):
  |            raise IndexError(index)
  |        if index < 0:
  |            index += len(self)
  |        tail = self._path._tail
  |        return self._path._make(self._path.root, tail[:len(tail) - index - 1])
  |    def __repr__(self):
  |        return '<%s.parents>' % type(self._path).__name__
  |
  |class PurePath:
  |    def __new__(cls, *args, **kwargs):
  |        if cls is PurePath:
  |            cls = PurePosixPath
  |        elif cls is Path:
  |            cls = PosixPath
  |        return object.__new__(cls)
  |    def __init__(self, *args):
  |        texts = []
  |        for arg in args:
  |            if isinstance(arg, PurePath):
  |                texts.append(str(arg))
  |                continue
  |            try:
  |                text = os.fspath(arg)
  |            except TypeError:
  |                text = arg
  |            if not isinstance(text, str):
  |                raise TypeError('argument should be a str or an os.PathLike object where '
  |                                '__fspath__ returns a str, not %r' % type(text).__name__)
  |            texts.append(text)
  |        joined = posixpath.join(*texts) if texts else ''
  |        self.root, self._tail = _split(joined)
  |    drive = ''
  |    @classmethod
  |    def _of(cls, root, tail):
  |        made = object.__new__(cls)
  |        made.root = root
  |        made._tail = tail
  |        return made
  |    def _make(self, root, tail):
  |        return type(self)._of(root, tail)
  |    def with_segments(self, *pathsegments):
  |        return type(self)(*pathsegments)
  |    def __reduce__(self):
  |        return (type(self), (str(self),))
  |    def __str__(self):
  |        return self.root + '/'.join(self._tail) or '.'
  |    def __fspath__(self):
  |        return str(self)
  |    def as_posix(self):
  |        return str(self)
  |    def __bytes__(self):
  |        return os.fsencode(str(self))
  |    def __repr__(self):
  |        return '%s(%r)' % (type(self).__name__, str(self))
  |    def as_uri(self):
  |        if not self.is_absolute():
  |            raise ValueError("relative path can't be expressed as a file URI")
  |        from urllib.parse import quote_from_bytes
  |        return 'file://' + quote_from_bytes(os.fsencode(str(self)))
  |    def __eq__(self, other):
  |        if not isinstance(other, PurePath):
  |            return NotImplemented
  |        return str(self) == str(other)
  |    def __hash__(self):
  |        return hash(str(self))
  |    def __lt__(self, other):
  |        if not isinstance(other, PurePath):
  |            return NotImplemented
  |        return self.parts < other.parts
  |    def __le__(self, other):
  |        if not isinstance(other, PurePath):
  |            return NotImplemented
  |        return self.parts <= other.parts
  |    def __gt__(self, other):
  |        if not isinstance(other, PurePath):
  |            return NotImplemented
  |        return self.parts > other.parts
  |    def __ge__(self, other):
  |        if not isinstance(other, PurePath):
  |            return NotImplemented
  |        return self.parts >= other.parts
  |    @property
  |    def anchor(self):
  |        return self.root
  |    @property
  |    def parts(self):
  |        return ((self.root,) if self.root else ()) + tuple(self._tail)
  |    @property
  |    def name(self):
  |        return self._tail[-1] if self._tail else ''
  |    @property
  |    def suffix(self):
  |        name = self.name
  |        i = name.rfind('.')
  |        return name[i:] if 0 < i < len(name) - 1 else ''
  |    @property
  |    def suffixes(self):
  |        name = self.name
  |        if name.endswith('.'):
  |            return []
  |        return ['.' + suffix for suffix in name.lstrip('.').split('.')[1:]]
  |    @property
  |    def stem(self):
  |        name = self.name
  |        i = name.rfind('.')
  |        return name[:i] if 0 < i < len(name) - 1 else name
  |    @property
  |    def parent(self):
  |        if not self._tail:
  |            return self
  |        return self._make(self.root, self._tail[:-1])
  |    @property
  |    def parents(self):
  |        return _Parents(self)
  |    def with_name(self, name):
  |        if not self.name:
  |            raise ValueError('%r has an empty name' % (self,))
  |        if not name or '/' in name or name == '.':
  |            raise ValueError('Invalid name %r' % (name,))
  |        return self._make(self.root, self._tail[:-1] + [name])
  |    def with_stem(self, stem):
  |        return self.with_name(stem + self.suffix)
  |    def with_suffix(self, suffix):
  |        if '/' in suffix or suffix and not suffix.startswith('.') or suffix == '.':
  |            raise ValueError('Invalid suffix %r' % (suffix,))
  |        name = self.name
  |        if not name:
  |            raise ValueError('%r has an empty name' % (self,))
  |        old = self.suffix
  |        return self._make(self.root, self._tail[:-1]
  |                          + [(name[:-len(old)] if old else name) + suffix])
  |    def relative_to(self, other, *rest, walk_up=False):
  |        other = PurePosixPath(other, *rest)
  |        up = 0
  |        for up, path in enumerate([other] + list(other.parents)):
  |            if str(path) == str(self) or path.parts == self.parts[:len(path.parts)]:
  |                break
  |            if not walk_up:
  |                raise ValueError('%r is not in the subpath of %r OR one path is relative and '
  |                                 'the other is absolute.' % (str(self), str(other)))
  |            if path.name == '..':
  |                raise ValueError("'..' segment in %r cannot be walked" % (str(other),))
  |        else:
  |            raise ValueError('%r and %r have different anchors' % (str(self), str(other)))
  |        return self._make('', ['..'] * up + list(self.parts[len(path.parts):]))
  |    def is_relative_to(self, other, *rest):
  |        other = PurePosixPath(other, *rest)
  |        return other.parts == self.parts[:len(other.parts)] and (
  |            self.root == other.root or not other.root)
  |    def is_absolute(self):
  |        return bool(self.root)
  |    def is_reserved(self):
  |        return False
  |    def joinpath(self, *pathsegments):
  |        return type(self)(self, *pathsegments)
  |    def __truediv__(self, key):
  |        try:
  |            return type(self)(self, key)
  |        except TypeError:
  |            return NotImplemented
  |    def __rtruediv__(self, key):
  |        try:
  |            return type(self)(key, self)
  |        except TypeError:
  |            return NotImplemented
  |    def match(self, path_pattern, *, case_sensitive=None):
  |        root, wanted = _split(os.fspath(path_pattern))
  |        if not root and not wanted:
  |            raise ValueError('empty pattern')
  |        parts = list(self.parts)
  |        if root:
  |            wanted = [root] + wanted
  |            if len(parts) != len(wanted):
  |                return False
  |        if len(wanted) > len(parts):
  |            return False
  |        return all(fnmatch.fnmatchcase(part, pattern)
  |                   for part, pattern in zip(reversed(parts), reversed(wanted)))
  |
  |class PurePosixPath(PurePath):
  |    pass
  |
  |class PureWindowsPath(PurePath):
  |    pass
  |
  |class Path(PurePath):
  |    def __init__(self, *args, **kwargs):
  |        super().__init__(*args)
  |    @classmethod
  |    def cwd(cls):
  |        return cls(os.getcwd())
  |    @classmethod
  |    def home(cls):
  |        return cls('~').expanduser()
  |    def __enter__(self):
  |        return self
  |    def __exit__(self, t, v, tb):
  |        pass
  |    def stat(self, *, follow_symlinks=True):
  |        return os.stat(self, follow_symlinks=follow_symlinks)
  |    def lstat(self):
  |        return os.stat(self, follow_symlinks=False)
  |    def exists(self, *, follow_symlinks=True):
  |        try:
  |            self.stat(follow_symlinks=follow_symlinks)
  |        except OSError as e:
  |            if not _same(e):
  |                raise
  |            return False
  |        except ValueError:
  |            return False
  |        return True
  |    def _is(self, test):
  |        try:
  |            return test(self.stat().st_mode)
  |        except OSError as e:
  |            if not _same(e):
  |                raise
  |            return False
  |        except ValueError:
  |            return False
  |    def is_dir(self, *, follow_symlinks=True):
  |        return self._is(S_ISDIR)
  |    def is_file(self, *, follow_symlinks=True):
  |        return self._is(S_ISREG)
  |    def is_mount(self):
  |        return os.path.ismount(self)
  |    def is_junction(self):
  |        return False
  |    def is_symlink(self):
  |        return os.path.islink(self)
  |    def is_block_device(self):
  |        return self._is(S_ISBLK)
  |    def is_char_device(self):
  |        return self._is(S_ISCHR)
  |    def is_fifo(self):
  |        return self._is(S_ISFIFO)
  |    def is_socket(self):
  |        return self._is(S_ISSOCK)
  |    def samefile(self, other_path):
  |        other = os.stat(other_path)
  |        st = self.stat()
  |        return (st.st_ino, st.st_dev) == (other.st_ino, other.st_dev)
  |    def open(self, mode='r', buffering=-1, encoding=None, errors=None, newline=None):
  |        return io.open(self, mode, buffering, encoding, errors, newline)
  |    def read_bytes(self):
  |        with self.open('rb') as f:
  |            return f.read()
  |    def read_text(self, encoding=None, errors=None):
  |        with self.open('r', encoding=encoding, errors=errors) as f:
  |            return f.read()
  |    def write_bytes(self, data):
  |        if isinstance(data, str):
  |            raise TypeError("memoryview: a bytes-like object is required, not 'str'")
  |        with self.open('wb') as f:
  |            return f.write(data)
  |    def write_text(self, data, encoding=None, errors=None, newline=None):
  |        if not isinstance(data, str):
  |            raise TypeError('data must be str, not %s' % type(data).__name__)
  |        with self.open('w', encoding=encoding, errors=errors, newline=newline) as f:
  |            return f.write(data)
  |    def iterdir(self):
  |        for name in os.listdir(self):
  |            yield self._make(self.root, self._tail + [name])
  |    def _scan(self):
  |        try:
  |            names = os.listdir(self)
  |        except OSError:
  |            return []
  |        return [self._make(self.root, self._tail + [name]) for name in names]
  |    def glob(self, pattern, *, case_sensitive=None):
  |        root, parts = _split(os.fspath(pattern))
  |        if root:
  |            raise NotImplementedError('Non-relative patterns are unsupported')
  |        if not parts:
  |            raise ValueError('Unacceptable pattern: %r' % (pattern,))
  |        if os.fspath(pattern).endswith('/'):
  |            parts.append('')
  |        yield from _selected(self, parts)
  |    def rglob(self, pattern, *, case_sensitive=None):
  |        root, parts = _split(os.fspath(pattern))
  |        if root:
  |            raise NotImplementedError('Non-relative patterns are unsupported')
  |        if os.fspath(pattern).endswith('/'):
  |            parts.append('')
  |        yield from _selected(self, ['**'] + parts)
  |    def walk(self, top_down=True, on_error=None, follow_symlinks=False):
  |        for top, dirs, files in os.walk(self, topdown=top_down, onerror=on_error,
  |                                        followlinks=follow_symlinks):
  |            yield type(self)(top), dirs, files
  |    def absolute(self):
  |        if self.is_absolute():
  |            return self
  |        return type(self)(os.getcwd(), self)
  |    def resolve(self, strict=False):
  |        return type(self)(os.path.realpath(self, strict=strict))
  |    def owner(self):
  |        import pwd
  |        return pwd.getpwuid(self.stat().st_uid).pw_name
  |    def group(self):
  |        import grp
  |        return grp.getgrgid(self.stat().st_gid).gr_name
  |    def readlink(self):
  |        return type(self)(os.readlink(self))
  |    def touch(self, mode=0o666, exist_ok=True):
  |        if exist_ok:
  |            try:
  |                os.utime(self, None)
  |            except OSError:
  |                pass
  |            else:
  |                return
  |        flags = os.O_CREAT | os.O_WRONLY
  |        if not exist_ok:
  |            flags |= os.O_EXCL
  |        os.close(os.open(self, flags, mode))
  |    def mkdir(self, mode=0o777, parents=False, exist_ok=False):
  |        try:
  |            os.mkdir(self, mode)
  |        except FileNotFoundError:
  |            if not parents or self.parent == self:
  |                raise
  |            self.parent.mkdir(parents=True, exist_ok=True)
  |            self.mkdir(mode, parents=False, exist_ok=exist_ok)
  |        except OSError:
  |            if not exist_ok or not self.is_dir():
  |                raise
  |    def chmod(self, mode, *, follow_symlinks=True):
  |        os.chmod(self, mode, follow_symlinks=follow_symlinks)
  |    def lchmod(self, mode):
  |        self.chmod(mode, follow_symlinks=False)
  |    def unlink(self, missing_ok=False):
  |        try:
  |            os.unlink(self)
  |        except FileNotFoundError:
  |            if not missing_ok:
  |                raise
  |    def rmdir(self):
  |        os.rmdir(self)
  |    def rename(self, target):
  |        os.rename(self, target)
  |        return type(self)(target)
  |    def replace(self, target):
  |        os.replace(self, target)
  |        return type(self)(target)
  |    def symlink_to(self, target, target_is_directory=False):
  |        os.symlink(target, self)
  |    def hardlink_to(self, target):
  |        os.link(target, self)
  |    def expanduser(self):
  |        if not self.root and self._tail and self._tail[0][:1] == '~':
  |            home = os.path.expanduser(self._tail[0])
  |            if home[:1] == '~':
  |                raise RuntimeError('Could not determine home directory.')
  |            return type(self)(home, *self._tail[1:])
  |        return self
  |
  |class PosixPath(Path, PurePosixPath):
  |    pass
  |
  |class WindowsPath(Path, PureWindowsPath):
  |    pass
  |
  |def _below(path):
  |    yield path
  |    for entry in path._scan():
  |        if entry.is_dir() and not entry.is_symlink():
  |            yield from _below(entry)
  |
  |def _selected(path, parts):
  |    if not parts:
  |        if path.exists() or path.is_symlink():
  |            yield path
  |        return
  |    first, rest = parts[0], parts[1:]
  |    if first == '**':
  |        while rest and rest[0] == '**':
  |            rest = rest[1:]
  |        if not path.is_dir():
  |            return
  |        seen = set()
  |        for start in _below(path):
  |            if not rest:
  |                yield start
  |                continue
  |            for found in _selected(start, rest):
  |                if str(found) not in seen:
  |                    seen.add(str(found))
  |                    yield found
  |    elif first == '':
  |        if path.is_dir():
  |            yield path
  |    elif first == '..':
  |        yield from _selected(path._make(path.root, path._tail + ['..']), rest)
  |    elif not any(c in first for c in '*?['):
  |        entry = path._make(path.root, path._tail + [first])
  |        if (entry.is_dir() if rest else entry.exists() or entry.is_symlink()):
  |            yield from _selected(entry, rest)
  |    else:
  |        test = re.compile(fnmatch.translate(first)).match
  |        for entry in path._scan():
  |            if test(entry.name) and (not rest or entry.is_dir()):
  |                yield from _selected(entry, rest)"#

/-- Lines of several files, which may be changed in place. -/
def inputLines : String := r#"
  |import io
  |import os
  |import sys
  |_state = None
  |
  |def input(files=None, inplace=False, backup='', *, mode='r', openhook=None, encoding=None,
  |          errors=None):
  |    global _state
  |    if _state and _state._file:
  |        raise RuntimeError('input() already active')
  |    _state = FileInput(files, inplace, backup, mode=mode, openhook=openhook,
  |                       encoding=encoding, errors=errors)
  |    return _state
  |
  |def close():
  |    global _state
  |    state = _state
  |    _state = None
  |    if state:
  |        state.close()
  |
  |def _active():
  |    if not _state:
  |        raise RuntimeError('no active input()')
  |    return _state
  |
  |def nextfile():
  |    return _active().nextfile()
  |
  |def filename():
  |    return _active().filename()
  |
  |def lineno():
  |    return _active().lineno()
  |
  |def filelineno():
  |    return _active().filelineno()
  |
  |def fileno():
  |    return _active().fileno()
  |
  |def isfirstline():
  |    return _active().isfirstline()
  |
  |def isstdin():
  |    return _active().isstdin()
  |
  |class FileInput:
  |    def __init__(self, files=None, inplace=False, backup='', *, mode='r', openhook=None,
  |                 encoding=None, errors=None):
  |        if isinstance(files, str):
  |            files = (files,)
  |        elif isinstance(files, os.PathLike):
  |            files = (os.fspath(files),)
  |        else:
  |            if files is None:
  |                files = sys.argv[1:]
  |            files = tuple(files) or ('-',)
  |        self._files = files
  |        self._inplace = inplace
  |        self._backup = backup
  |        self._savestdout = None
  |        self._output = None
  |        self._filename = None
  |        self._startlineno = 0
  |        self._filelineno = 0
  |        self._file = None
  |        self._isstdin = False
  |        self._backupfilename = None
  |        self._encoding = encoding
  |        self._errors = errors
  |        if mode not in ('r', 'rb'):
  |            raise ValueError("FileInput opening mode must be 'r' or 'rb'")
  |        if inplace and openhook:
  |            raise ValueError('FileInput cannot use an opening hook in inplace mode')
  |        self._mode = mode
  |        self._openhook = openhook
  |    def __del__(self):
  |        self.close()
  |    def close(self):
  |        try:
  |            self.nextfile()
  |        finally:
  |            self._files = ()
  |    def __enter__(self):
  |        return self
  |    def __exit__(self, type, value, traceback):
  |        self.close()
  |    def __iter__(self):
  |        return self
  |    def __next__(self):
  |        while True:
  |            line = self._readline()
  |            if line:
  |                self._filelineno += 1
  |                return line
  |            if not self._file:
  |                raise StopIteration
  |            self.nextfile()
  |    def nextfile(self):
  |        savestdout = self._savestdout
  |        self._savestdout = None
  |        if savestdout:
  |            sys.stdout = savestdout
  |        output = self._output
  |        self._output = None
  |        try:
  |            if output:
  |                output.close()
  |        finally:
  |            file = self._file
  |            self._file = None
  |            try:
  |                if file and not self._isstdin:
  |                    file.close()
  |            finally:
  |                backupfilename = self._backupfilename
  |                self._backupfilename = None
  |                if backupfilename and not self._backup:
  |                    try:
  |                        os.unlink(backupfilename)
  |                    except OSError:
  |                        pass
  |                self._isstdin = False
  |    def readline(self):
  |        while True:
  |            line = self._readline()
  |            if line:
  |                self._filelineno += 1
  |                return line
  |            if not self._file:
  |                return line
  |            self.nextfile()
  |    def _readline(self):
  |        if self._file:
  |            return self._file.readline()
  |        if not self._files:
  |            return b'' if 'b' in self._mode else ''
  |        self._filename = self._files[0]
  |        self._files = self._files[1:]
  |        self._startlineno = self.lineno()
  |        self._filelineno = 0
  |        self._file = None
  |        self._isstdin = False
  |        self._backupfilename = None
  |        encoding = self._encoding if 'b' not in self._mode else None
  |        if self._filename == '-':
  |            self._filename = '<stdin>'
  |            self._file = sys.stdin.buffer if 'b' in self._mode else sys.stdin
  |            self._isstdin = True
  |        elif self._inplace:
  |            self._backupfilename = os.fspath(self._filename) + (self._backup or '.bak')
  |            try:
  |                os.unlink(self._backupfilename)
  |            except OSError:
  |                pass
  |            os.rename(self._filename, self._backupfilename)
  |            self._file = open(self._backupfilename, self._mode, encoding=encoding,
  |                              errors=self._errors)
  |            try:
  |                perm = os.fstat(self._file.fileno()).st_mode
  |            except OSError:
  |                self._output = open(self._filename, self._mode.replace('r', 'w'),
  |                                    encoding=encoding, errors=self._errors)
  |            else:
  |                mode = os.O_CREAT | os.O_WRONLY | os.O_TRUNC
  |                fd = os.open(self._filename, mode, perm)
  |                self._output = os.fdopen(fd, self._mode.replace('r', 'w'), encoding=encoding,
  |                                         errors=self._errors)
  |                try:
  |                    os.chmod(self._filename, perm)
  |                except OSError:
  |                    pass
  |            self._savestdout = sys.stdout
  |            sys.stdout = self._output
  |        elif self._openhook:
  |            if self._encoding is None:
  |                self._file = self._openhook(self._filename, self._mode)
  |            else:
  |                self._file = self._openhook(self._filename, self._mode,
  |                                            encoding=self._encoding, errors=self._errors)
  |        else:
  |            self._file = open(self._filename, self._mode, encoding=encoding,
  |                              errors=self._errors)
  |        return self._file.readline()
  |    def filename(self):
  |        return self._filename
  |    def lineno(self):
  |        return self._startlineno + self._filelineno
  |    def filelineno(self):
  |        return self._filelineno
  |    def fileno(self):
  |        if self._file:
  |            try:
  |                return self._file.fileno()
  |            except ValueError:
  |                return -1
  |        return -1
  |    def isfirstline(self):
  |        return self._filelineno == 1
  |    def isstdin(self):
  |        return self._isstdin
  |
  |def hook_compressed(filename, mode, *, encoding=None, errors=None):
  |    return open(filename, mode, encoding=encoding, errors=errors)
  |
  |def hook_encoded(encoding, errors=None):
  |    def openhook(filename, mode):
  |        return open(filename, mode, encoding=encoding, errors=errors)
  |    return openhook"#

/-- Comparing files and directories. -/
def comparisons : String := r#"
  |import os
  |import stat
  |
  |def cmp(f1, f2, shallow=True):
  |    s1, s2 = os.stat(f1), os.stat(f2)
  |    if not stat.S_ISREG(s1.st_mode) or not stat.S_ISREG(s2.st_mode):
  |        return False
  |    with open(f1, 'rb') as a, open(f2, 'rb') as b:
  |        return a.read() == b.read()
  |
  |def cmpfiles(a, b, common, shallow=True):
  |    found = ([], [], [])
  |    for x in common:
  |        try:
  |            same = cmp(os.path.join(a, x), os.path.join(b, x), shallow)
  |            found[0 if same else 1].append(x)
  |        except OSError:
  |            found[2].append(x)
  |    return found
  |
  |def clear_cache():
  |    pass
  |
  |class dircmp:
  |    def __init__(self, a, b, ignore=None, hide=None):
  |        self.left, self.right = a, b
  |        hidden = ['.', '..'] if hide is None else hide
  |        self.left_list = sorted(n for n in os.listdir(a) if n not in hidden)
  |        self.right_list = sorted(n for n in os.listdir(b) if n not in hidden)
  |        self.common = [n for n in self.left_list if n in self.right_list]
  |        self.left_only = [n for n in self.left_list if n not in self.right_list]
  |        self.right_only = [n for n in self.right_list if n not in self.left_list]
  |        self.common_dirs = [n for n in self.common if os.path.isdir(os.path.join(a, n))]
  |        self.common_files = [n for n in self.common if os.path.isfile(os.path.join(a, n))]
  |        self.same_files, self.diff_files, self.funny_files = cmpfiles(a, b, self.common_files)"#

def linesByNumber : String := r#"
  |def getline(filename, lineno, module_globals=None):
  |    lines = getlines(filename)
  |    if 1 <= lineno <= len(lines):
  |        return lines[lineno - 1]
  |    return ''
  |
  |def getlines(filename, module_globals=None):
  |    try:
  |        with open(filename, encoding='utf-8') as fp:
  |            lines = fp.readlines()
  |    except (OSError, UnicodeDecodeError):
  |        return []
  |    if lines and not lines[-1].endswith('\n'):
  |        lines[-1] += '\n'
  |    return lines
  |
  |def clearcache():
  |    pass
  |
  |def checkcache(filename=None):
  |    pass"#

def locks : String := r#"
  |LOCK_SH, LOCK_EX, LOCK_NB, LOCK_UN = 1, 2, 4, 8
  |F_DUPFD, F_GETFD, F_SETFD, F_GETFL, F_SETFL = 0, 1, 2, 3, 4
  |FD_CLOEXEC = 1
  |
  |def flock(fd, operation):
  |    pass
  |
  |def lockf(fd, cmd, len=0, start=0, whence=0):
  |    pass
  |
  |def fcntl(fd, cmd, arg=0):
  |    return 0
  |
  |def ioctl(fd, request, arg=0, mutate_flag=True):
  |    raise OSError(25, 'Inappropriate ioctl for device')"#

end BuiltinWrappers.Script.Indented.Library
